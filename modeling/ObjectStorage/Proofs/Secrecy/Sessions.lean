import Mathlib.Logic.Equiv.Basic
import ObjectStorage.Proofs.Desks
import ObjectStorage.Proofs.Secrecy.Blindness

/-!
# Credentials are not seen

A session is a row of calls to a store, to the sinks that it opened, and to its pool of clients
(`BucketStore.session`). Two sessions with the same calls, of which one has the secret keys and
session tokens of the other in disguise, cannot be told apart by what is seen of them: by the
answers, the faults, the records of the log, the counters, and the described identities of targets
(`BucketStore.credentials_unseen`). Only the options themselves differ, where they are handed to the
maker of clients or are the answer.
-/

namespace ObjectStorage

open Text Time

variable {σ α β : Type} {disguise : Disguise}

/-- What a log, a page of counters and the caller tell of a call. -/
structure Observation where
  result : Except Fault ClientAnswer
  records : List Record
  counters : List Counter

/-- An answer as it is described: options do not show their secrets. -/
def ClientAnswer.shown : ClientAnswer → ClientAnswer
  | .identity options => .text options.described
  | other => other

def CallReport.observed (report : CallReport) : Observation :=
  ⟨report.result.map ClientAnswer.shown, report.journal.records, report.journal.counters⟩

/-- The same answer, or an identity in disguise. -/
inductive ClientAnswer.InDisguise (disguise : Disguise) : ClientAnswer → ClientAnswer → Prop
  | identity {own other : ClientOptions} (disguised : own.InDisguise disguise other) :
    InDisguise disguise (.identity own) (.identity other)
  | stays (answer : ClientAnswer) : InDisguise disguise answer answer

/-- The same report, but that options that are let out are in disguise. -/
structure CallReport.InDisguise (disguise : Disguise) (own other : CallReport) : Prop where
  /-- The faults are the same, and so are the answers unless they are identities. -/
  result : EndsAlike (ClientAnswer.InDisguise disguise) own.result other.result
  /-- The events are the same unless they hand options to the maker of clients. -/
  journal : List.Forall₂ (Event.InDisguise disguise) own.journal other.journal

/-- What is read off single events is the same, if no disguise touches it. -/
theorem Journal.filterMap_eq {own other : Journal}
    (events : List.Forall₂ (Event.InDisguise disguise) own other) {look : Event → Option α}
    (unaware : ∀ request, look (.request request) = none) :
    own.filterMap look = other.filterMap look := by
  induction events with
  | nil => rfl
  | cons first rest ih =>
    cases first with
    | request disguised =>
      rw [List.filterMap_cons_none (unaware _), List.filterMap_cons_none (unaware _), ih]
    | stays event => rw [List.filterMap_cons, List.filterMap_cons, ih]

/-- What is seen of two reports is the same. -/
theorem CallReport.InDisguise.observed_eq {own other : CallReport}
    (same : own.InDisguise disguise other) : own.observed = other.observed := by
  obtain ⟨result, journal⟩ := own
  obtain ⟨otherResult, otherJournal⟩ := other
  obtain ⟨ends, events⟩ := same
  have records : Journal.records journal = Journal.records otherJournal :=
    Journal.filterMap_eq events fun _ => rfl
  have counters : Journal.counters journal = Journal.counters otherJournal :=
    Journal.filterMap_eq events fun _ => rfl
  unfold observed
  dsimp only at ends ⊢
  rw [records, counters]
  cases ends with
  | error fault => rfl
  | ok answers =>
    cases answers with
    | stays answer => rfl
    | identity disguised =>
      simp only [Except.map, ClientAnswer.shown, disguised.described_eq]

/-- Reports that are the same but for options in disguise look the same. -/
theorem CallReport.observed_eq_of_forall₂ {own other : List CallReport}
    (same : List.Forall₂ (CallReport.InDisguise disguise) own other) :
    own.map observed = other.map observed := by
  induction same with
  | nil => rfl
  | cons first rest ih => rw [List.map_cons, List.map_cons, first.observed_eq, ih]

namespace BucketStore

variable {store other : BucketStore σ} (same : store.pool.InDisguise disguise other.pool)
  (blind : store.pool.remote.Blind disguise)

include same blind in
/-- A store in disguise answers each call as the store does. -/
theorem answer_inDisguise (call : ClientCall) :
    (store.answer call).Pairs (Desk.Alike (Scene.InDisguise disguise))
      (ClientAnswer.InDisguise disguise) (other.answer call) :=
  answer_pairs .stays (toObjectStore_pairs same blind) (ClientPool.clientAt_pairs same blind)
    (fun target => (same.options.identityOf target).mono fun _ _ => .identity)
    (ClientPool.close_pairs same) call

include same blind in
/-- One call: the reports are the same but for the disguise, and so are the desks after it. -/
theorem report_inDisguise (call : ClientCall) {desk otherDesk : Desk σ}
    (desks : desk.Alike (Scene.InDisguise disguise) otherDesk) :
    (store.report call desk).1.InDisguise disguise (other.report call otherDesk).1 ∧
      (store.report call desk).2.Alike (Scene.InDisguise disguise) (other.report call otherDesk).2 := by
  have cleared : desk.cleared.Alike (Scene.InDisguise disguise) otherDesk.cleared :=
    ⟨⟨desks.scene.remote, desks.scene.pools, .nil⟩, desks.sinks⟩
  obtain ⟨ends, after⟩ := answer_inDisguise same blind call _ _ cleared
  exact ⟨⟨ends, after.scene.journal⟩, after⟩

include same blind in
/-- It answers a whole session so. -/
theorem session_inDisguise (calls : List ClientCall) {desk otherDesk : Desk σ}
    (desks : desk.Alike (Scene.InDisguise disguise) otherDesk) :
    List.Forall₂ (CallReport.InDisguise disguise) (store.session calls desk).1
        (other.session calls otherDesk).1 ∧
      (store.session calls desk).2.Alike (Scene.InDisguise disguise)
        (other.session calls otherDesk).2 := by
  induction calls generalizing desk otherDesk with
  | nil => exact ⟨.nil, desks⟩
  | cons call rest ih =>
    obtain ⟨first, between⟩ := report_inDisguise same blind call desks
    obtain ⟨others, last⟩ := ih between
    exact ⟨.cons first others, last⟩

/-- Secret keys and session tokens have no influence on what is seen. If a store has the options of
another in disguise, and the maker of clients takes no notice of that, then all calls made to them
in a row are answered alike, fault by fault, with the same records, counters and descriptions of
identities, and leave the service in the same state. What else happens is the same, too, but that
the options in it are in disguise. -/
theorem credentials_unseen {disguise : Disguise} {store other : BucketStore σ}
    (same : store.pool.InDisguise disguise other.pool)
    (blind : store.pool.remote.Blind disguise) (calls : List ClientCall) (remote : σ) :
    (store.session calls (.start remote)).1.map CallReport.observed =
        (other.session calls (.start remote)).1.map CallReport.observed ∧
      (store.session calls (.start remote)).2.scene.remote =
        (other.session calls (.start remote)).2.scene.remote ∧
      List.Forall₂ (CallReport.InDisguise disguise) (store.session calls (.start remote)).1
        (other.session calls (.start remote)).1 := by
  have started : (Desk.start remote).Alike (Scene.InDisguise disguise) (.start remote) :=
    ⟨⟨rfl, fun _ => ⟨.nil, .nil⟩, .nil⟩, .nil⟩
  obtain ⟨reports, last⟩ := session_inDisguise same blind calls started
  exact ⟨CallReport.observed_eq_of_forall₂ reports, last.scene.remote, reports⟩

end BucketStore

/-- Two texts change places. -/
def Cipher.swap (first second : Text) (filled : "" ≠ first) (alsoFilled : "" ≠ second) :
    Cipher where
  encode := Equiv.swap first second
  empty := Equiv.swap_apply_of_ne_of_ne filled alsoFilled
  injective := (Equiv.swap first second).injective

/-- To exchange two texts replaces each by the other. -/
theorem Cipher.swap_replaces (first second : Text) (filled : "" ≠ first)
    (alsoFilled : "" ≠ second) :
    (swap first second filled alsoFilled).Replaces (.text first) (.text second) ∧
      (swap first second filled alsoFilled).Replaces (.text second) (.text first) := by
  constructor
  · exact .text rfl (congrArg some (Equiv.swap_apply_left first second).symm)
  · exact .text rfl (congrArg some (Equiv.swap_apply_right first second).symm)

/-- Two secret keys change places. -/
def keysExchanged : Disguise :=
  ⟨.swap "rose" "thorn" (by decide) (by decide), .swap "rose" "thorn" (by decide) (by decide)⟩

/-- A service that makes a client for everyone. -/
def openService : Remote Nat where
  now _ := .beginning
  build _ made := (.ok (some ⟨made, true⟩), made + 1)
  headBucket _ _ := pure ()
  getObject _ _ _ := pure (.body [])
  putObject _ _ _ _ := pure ()
  deleteObjects _ _ _ := pure (.table [])
  close _ := pure ()

/-- A store of the open service with a secret key for one bucket and another for the others. -/
def keyedStore (usual special : Text) : BucketStore Nat :=
  ⟨"pool", openService,
    ⟨{ ClientOptions.empty with secretAccessKey := .text usual },
      [("b", { ClientOptions.empty with secretAccessKey := .text special })], none⟩, .options⟩

/-- A store with the keys exchanged is the store in disguise. -/
theorem keyedStore_inDisguise :
    (keyedStore "rose" "thorn").pool.InDisguise keysExchanged
      (keyedStore "thorn" "rose").pool := by
  obtain ⟨toThorn, toRose⟩ := Cipher.swap_replaces "rose" "thorn" (by decide) (by decide)
  have isOpen (cipher : Cipher) : cipher.Replaces .null .null := .stays rfl
  refine ⟨rfl, rfl, ⟨?_, .cons ⟨rfl, ?_⟩ .nil, rfl⟩, rfl⟩
  · exact ⟨rfl, rfl, rfl, toThorn, isOpen _, rfl⟩
  · exact ⟨rfl, rfl, rfl, toRose, isOpen _, rfl⟩

/-- When the two keys of a store change places, nobody sees it. -/
theorem keyedStore_credentials_unseen :
    (keyedStore "rose" "thorn").pool.InDisguise keysExchanged (keyedStore "thorn" "rose").pool ∧
    openService.Blind keysExchanged ∧
    ((keyedStore "rose" "thorn").session [.clientAt (.text "a"), .clientAt (.text "b"),
        .identityOf (.text "b"), .closeClients] (.start 0)).1.map CallReport.observed =
      ((keyedStore "thorn" "rose").session [.clientAt (.text "a"), .clientAt (.text "b"),
        .identityOf (.text "b"), .closeClients] (.start 0)).1.map CallReport.observed ∧
    ((keyedStore "rose" "thorn").pool.options.effective "b").secretAccessKey = .text "thorn" ∧
    ((keyedStore "thorn" "rose").pool.options.effective "b").secretAccessKey = .text "rose" := by
  have blind : openService.Blind keysExchanged := fun _ _ _ => rfl
  obtain ⟨seen, _⟩ := BucketStore.credentials_unseen keyedStore_inDisguise blind
    [.clientAt (.text "a"), .clientAt (.text "b"), .identityOf (.text "b"), .closeClients] 0
  exact ⟨keyedStore_inDisguise, blind, seen, rfl, rfl⟩

end ObjectStorage
