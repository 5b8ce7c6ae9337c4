import ObjectStorage.ErrorResponse
import ObjectStorage.Proofs.Delete.BestEffort

/-!
# Errors for single keys

The errors that responses report for single keys are recorded for a bucket when no call for it
raises a fault. A fault takes their place, so that a bucket in which keys were refused can look as
if it had only been asked to slow down (`BucketStore.delete_accounts_for_reports_iff`).
-/

namespace ObjectStorage

open Text Time

variable {σ : Type}

/-- The fault asks to slow down, or is a failure that does. -/
def Fault.SlowsDown (fault : Fault) : Prop :=
  fault.isThrottled = true ∨ fault.isStorage = false ∧ fault.asksToSlowDown = .ok true

namespace Fault.Surfaces

variable {delay : Option Duration} {message : Text} {fault : Fault} {problem : StorageProblem}
  {cause : Cause}

/-- A fault that surfaces is not raised from nothing. -/
theorem cause_ne_nothing (surfaces : fault.Surfaces delay message problem cause) :
    cause ≠ .nothing := by
  cases surfaces <;> nofun

/-- A fault surfaces as throttled exactly if it asks to slow down. -/
theorem isThrottled_iff (surfaces : fault.Surfaces delay message problem cause) :
    (Fault.storage problem cause).isThrottled = true ↔ fault.SlowsDown := by
  cases surfaces with
  | own cause =>
    have same : (storage problem .itself).isThrottled = (storage problem cause).isThrottled := by
      cases problem <;> rfl
    rw [same]
    refine ⟨.inl, ?_⟩
    rintro (throttled | ⟨foreign, _⟩)
    · exact throttled
    · cases foreign
  | @judged _ now verdict foreign given =>
    have notOurs : fault.isThrottled = false := by
      cases fault with
      | storage problem cause => cases foreign
      | _ => rfl
    rcases (Verdict.ofFault_ok given).2 with ⟨asks, _, problem⟩ | ⟨asks, problem⟩
    · rw [problem]
      exact ⟨fun _ => .inr ⟨foreign, asks⟩, fun _ => rfl⟩
    · rw [problem]
      refine ⟨nofun, ?_⟩
      rintro (throttled | ⟨_, slow⟩)
      · cases notOurs.symm.trans throttled
      · cases asks.symm.trans slow

end Fault.Surfaces

namespace Attempt

/-- The failure of an attempt is the one for the errors that its responses report. -/
def AccountsForReports (attempt : Attempt) : Prop :=
  ∃ problem, BucketStore.keyErrorsFault attempt.bucket attempt.reported =
      .ok (.storage problem .nothing) ∧ attempt.failure? = some (problem, .nothing)

/-- The failure of an attempt is throttled. -/
def isThrottled (attempt : Attempt) : Bool :=
  attempt.named?.any fun entry => entry.2.isThrottled

variable {store : BucketStore σ} {attempt : Attempt}

/-- The errors that an attempt was told of are accounted for exactly if no call of it raised a
fault. -/
theorem Faithful.accountsForReports_iff (faithful : attempt.Faithful store)
    (reports : attempt.reported ≠ []) : attempt.AccountsForReports ↔ attempt.raised? = none := by
  constructor
  · rintro ⟨problem, _, failure⟩
    cases raised : attempt.raised? with
    | none => rfl
    | some fault =>
      obtain ⟨other, cause, surfaced, surfaces⟩ := faithful.surfaced fault raised
      cases failure.symm.trans surfaced
      exact (surfaces.cause_ne_nothing rfl).elim
  · exact fun calm => faithful.collected calm reports

/-- The failure for the errors of single keys is never a throttled one. -/
theorem keyErrorsFault_notThrottled {bucket : Text} {errors : List Datum} {fault : Fault}
    (told : BucketStore.keyErrorsFault bucket errors = .ok fault) : fault.isThrottled = false := by
  obtain ⟨shown, _, told⟩ := Except.bind_ok told
  cases told
  rfl

/-- What was reported has no say in whether a failure is throttled. -/
theorem Faithful.isThrottled_iff (faithful : attempt.Faithful store) :
    attempt.isThrottled = true ↔ ∃ fault, attempt.raised? = some fault ∧ fault.SlowsDown := by
  unfold isThrottled named?
  cases raised : attempt.raised? with
  | some fault =>
    obtain ⟨problem, cause, failure, surfaces⟩ := faithful.surfaced fault raised
    rw [failure, Option.map_some, Option.any_some, surfaces.isThrottled_iff]
    refine ⟨fun slows => ⟨fault, rfl, slows⟩, ?_⟩
    rintro ⟨_, ⟨⟩, slows⟩
    exact slows
  | none =>
    refine ⟨fun throttled => ?_, nofun⟩
    by_cases reports : attempt.reported = []
    · rw [faithful.clean raised reports] at throttled
      cases throttled
    · obtain ⟨problem, told, failure⟩ := faithful.collected raised reports
      rw [failure, Option.map_some, Option.any_some, keyErrorsFault_notThrottled told] at throttled
      cases throttled

/-- A batch is worth a retry exactly if every failing attempt is throttled. -/
theorem worthRetry_iff {attempts : List Attempt} (faithful : ∀ attempt ∈ attempts,
    attempt.Faithful store) {problem : StorageProblem} {cause : Cause}
    (failed : verdict attempts = .error (.storage problem cause)) :
    problem.worthRetry = true ↔
      ∀ attempt ∈ attempts, attempt.fails = true → attempt.isThrottled = true := by
  obtain ⟨nonempty, same⟩ := batchEnd_error_iff.mp failed
  cases same
  have given : (attempts.filterMap named?).isEmpty = false := by
    simpa using nonempty
  have kinds : (StorageProblem.batchDelete (attempts.filterMap named?)).worthRetry =
      (attempts.filterMap named?).all fun entry => entry.2.isThrottled := by
    simp only [StorageProblem.worthRetry, StorageProblem.kind, given, Bool.not_false,
      Bool.true_and]
    cases (attempts.filterMap named?).all fun entry => entry.2.isThrottled <;> rfl
  rw [kinds, List.all_eq_true]
  constructor
  · intro all attempt inside fails
    have told := (faithful attempt inside).failure?_isSome
    rw [fails, Option.isSome_iff_exists] at told
    obtain ⟨failure, told⟩ := told
    have entry : attempt.named? = some (attempt.bucket, .storage failure.1 failure.2) := by
      rw [named?, told, Option.map_some]
    rw [isThrottled, entry]
    exact all _ (List.mem_filterMap.mpr ⟨attempt, inside, entry⟩)
  · intro all entry member
    obtain ⟨attempt, inside, entry⟩ := List.mem_filterMap.mp member
    have told := (faithful attempt inside).failure?_isSome
    have fails : attempt.fails = true := by
      rw [← told]
      unfold named? at entry
      obtain ⟨failure, told, _⟩ := Option.map_eq_some_iff.mp entry
      rw [told, Option.isSome_some]
    have throttled := all attempt inside fails
    rw [isThrottled, entry] at throttled
    exact throttled

end Attempt

namespace BucketStore

variable (store : BucketStore σ)

/-- The failure of a bucket accounts for the errors that its responses report exactly if no call for
it raises a fault, and it is throttled exactly if a fault that asks to slow down is raised. A batch
is worth a retry exactly if all its failing buckets are throttled. -/
theorem delete_accounts_for_reports_iff {locations : Datum} {items : List Datum}
    {parsed : List Location} (listed : locations.items = .ok items)
    (fit : items.mapM Datum.toObjectLocation = .ok parsed) (scene : Scene σ)
    (tame : store.TameFrom scene.remote) :
    ∃ (attempts : List Attempt) (result : Except Fault Unit) (after : Scene σ),
      store.delete locations scene = (result, after) ∧
      store.BestEffort parsed scene attempts after ∧
      (∀ attempt ∈ attempts,
        (attempt.reported ≠ [] → (attempt.AccountsForReports ↔ attempt.raised? = none)) ∧
        (attempt.isThrottled = true ↔
          ∃ fault, attempt.raised? = some fault ∧ fault.SlowsDown)) ∧
      ∀ problem cause, result = .error (.storage problem cause) →
        (problem.worthRetry = true ↔
          ∀ attempt ∈ attempts, attempt.fails = true → attempt.isThrottled = true) := by
  obtain ⟨attempts, after, ran, effort⟩ := store.delete_attempts listed fit scene tame
  refine ⟨attempts, Attempt.verdict attempts, after, ran, effort, ?_, ?_⟩
  · intro attempt inside
    have faithful := effort.faithful attempt inside
    exact ⟨faithful.accountsForReports_iff, faithful.isThrottled_iff⟩
  · exact fun problem cause failed => Attempt.worthRetry_iff effort.faithful failed

/-- The fault of a service that asks to slow down. -/
def overload : Fault :=
  .reported "DeleteObjects" "SlowDown" "Reduce your request rate." 503

theorem overload_judgeable : overload.Judgeable none ⟨0, by decide⟩ := by
  have asks : overload.asksToSlowDown = .ok true := rfl
  have unsaid : overload.serviceDelay = .ok none := rfl
  have later : (⟨0, by decide⟩ : Instant).add? (firstDelay [none, none]) =
      some ⟨10000000, by decide⟩ := by decide
  have code : overload.reportedCode = .ok "SlowDown" := rfl
  have status : overload.reportedStatus = .ok (some 503) := rfl
  exact Fault.judgeable_slow rfl asks unsaid later code status

/-- The overloaded service asks to slow down. -/
theorem overload_slowsDown : overload.SlowsDown :=
  .inr ⟨rfl, rfl⟩

/-- A service that refuses to delete a key when it is first asked to delete, and asks to slow down
from then on. It counts how often it was asked. -/
def overloadedService : Remote Nat where
  now _ := .beginning
  build _ := pure (some ⟨0, true⟩)
  headBucket _ _ := pure ()
  getObject _ _ _ := pure (.raw .null)
  putObject _ _ _ _ := pure ()
  deleteObjects _ _ _
    | 0 => (.ok refusal, 1)
    | asked + 1 => (.error overload, asked + 2)
  close _ := pure ()

/-- A store of the overloaded service. -/
def overloadedStore : BucketStore Nat :=
  ⟨"pool", overloadedService, ⟨.empty, [], none⟩, .options⟩

/-- The overloaded service answers and raises what a store can deal with. -/
theorem overloadedStore_tame (start : Nat) : overloadedStore.TameFrom start := by
  intro exchanges between exchange after _ happens
  cases exchange with
  | build options result =>
    cases happens
    trivial
  | delete client bucket keys response =>
    cases between with
    | zero =>
      cases happens
      exact refusal_isDeleteResponse
    | succ asked =>
      cases happens
      exact overload_judgeable

/-- One key more than one request may have. -/
def overlong : List Datum :=
  List.replicate (batchLimit + 1) (.text "s3://b/k")

/-- What the locations read as. -/
def overlongPlaces : List Location :=
  List.replicate (batchLimit + 1) ⟨"s3", "b", "/k"⟩

theorem overlong_fit : overlong.mapM Datum.toObjectLocation = .ok overlongPlaces := by
  have each : ∀ count, (List.replicate count (Datum.text "s3://b/k")).mapM Datum.toObjectLocation =
      .ok (List.replicate count ⟨"s3", "b", "/k"⟩) := by
    intro count
    induction count with
    | zero => rfl
    | succ count ih =>
      have first : (Datum.text "s3://b/k").toObjectLocation = .ok ⟨"s3", "b", "/k"⟩ := rfl
      rw [List.replicate_succ, List.mapM_cons, first, ih]
      rfl
  exact each (batchLimit + 1)

theorem overloadedStore_delete_accounts_for_reports_iff :
    (Datum.list overlong).items = .ok overlong ∧
    overlong.mapM Datum.toObjectLocation = .ok overlongPlaces ∧
    overloadedStore.TameFrom 0 ∧
    ∃ (attempts : List Attempt) (result : Except Fault Unit) (after : Scene Nat),
      overloadedStore.delete (.list overlong) (.start 0) = (result, after) ∧
      overloadedStore.BestEffort overlongPlaces (.start 0) attempts after ∧
      (∀ attempt ∈ attempts,
        (attempt.reported ≠ [] → (attempt.AccountsForReports ↔ attempt.raised? = none)) ∧
        (attempt.isThrottled = true ↔
          ∃ fault, attempt.raised? = some fault ∧ fault.SlowsDown)) ∧
      ∀ problem cause, result = .error (.storage problem cause) →
        (problem.worthRetry = true ↔
          ∀ attempt ∈ attempts, attempt.fails = true → attempt.isThrottled = true) :=
  ⟨rfl, overlong_fit, overloadedStore_tame 0,
    overloadedStore.delete_accounts_for_reports_iff rfl overlong_fit (.start 0)
      (overloadedStore_tame 0)⟩

theorem overlong_bucket : (overlongPlaces.map Location.authority).eraseDups = [("b" : Text)] := by
  simp [overlongPlaces, List.replicate_succ, List.eraseDups_cons]

/-- The keys of the overlong delete take two pieces: a full one and one with a single key. -/
theorem overlong_pieces : chunksOf batchLimit (keysIn overlongPlaces "b") =
    [List.replicate batchLimit ("k" : Text), [("k" : Text)]] := by
  have keys : keysIn overlongPlaces "b" = List.replicate (batchLimit + 1) ("k" : Text) := by
    simp [keysIn, overlongPlaces]
    rfl
  have split : ∀ size, chunksOf (size + 1) (List.replicate (size + 2) ("k" : Text)) =
      [List.replicate (size + 1) ("k" : Text), [("k" : Text)]] := by
    intro size
    rw [List.replicate_succ, chunksOf, List.take_replicate, List.drop_replicate]
    simp [chunksOf, List.replicate_succ]
  rw [keys]
  exact split 999

/-- In the one bucket a key is refused first and then a fault is raised. -/
theorem overloadedStore_attempt {attempt : Attempt} {after : Nat}
    (faithful : attempt.Faithful overloadedStore) (bucket : attempt.bucket = "b")
    (keys : attempt.keys = keysIn overlongPlaces "b")
    (dialogue : Dialogue overloadedService 0 attempt.exchanges after) :
    attempt.reported ≠ [] ∧ attempt.raised? = some overload := by
  obtain ⟨bucket', keys', opening, client, calls, failure?⟩ := attempt
  obtain rfl : bucket' = "b" := bucket
  obtain rfl : keys' = keysIn overlongPlaces "b" := keys
  have obtains := faithful.obtains
  have opened : ∃ connection, client = .ok connection ∧ Dialogue overloadedService 0
      (calls.map (PieceCall.exchange connection "b")) after := by
    cases obtains with
    | refused identity => cases identity
    | unkeyable identity changes =>
      cases identity
      cases changes
    | kept identity connection => exact ⟨connection, rfl, dialogue⟩
    | failed identity =>
      obtain ⟨_, happens, _⟩ := dialogue
      cases happens
    | missing identity =>
      obtain ⟨_, happens, _⟩ := dialogue
      cases happens
    | built identity connection =>
      obtain ⟨_, happens, later⟩ := dialogue
      cases happens
      exact ⟨_, rfl, later⟩
  obtain ⟨connection, rfl, asked⟩ := opened
  have sent := faithful.sent connection rfl
  rw [show (chunksOf batchLimit (keysIn overlongPlaces "b")) = _ from overlong_pieces] at sent
  cases sent with
  | raised keys unsent fault =>
    obtain ⟨_, happens, _⟩ := asked
    cases happens
  | answered response later =>
    obtain ⟨_, happens, asked⟩ := asked
    cases happens
    cases later with
    | answered response later =>
      obtain ⟨_, happens, _⟩ := asked
      cases happens
    | raised keys unsent fault =>
      obtain ⟨_, happens, _⟩ := asked
      cases happens
      exact ⟨nofun, rfl⟩

/-- A bucket can look as if it had only been asked to slow down although a key was refused in it. -/
theorem overloadedStore_hides_refusal :
    ∃ (attempts : List Attempt) (problem : StorageProblem) (after : Scene Nat),
      overloadedStore.delete (.list overlong) (.start 0) =
        (.error (.storage problem .nothing), after) ∧
      overloadedStore.BestEffort overlongPlaces (.start 0) attempts after ∧
      problem.worthRetry = true ∧
      ∃ attempt ∈ attempts, attempt.reported ≠ [] ∧ attempt.isThrottled = true ∧
        ¬ attempt.AccountsForReports := by
  have listed : (Datum.list overlong).items = .ok overlong := rfl
  obtain ⟨attempts, after, ran, effort⟩ :=
    overloadedStore.delete_attempts listed overlong_fit (.start 0) (overloadedStore_tame 0)
  have buckets := effort.buckets
  rw [overlong_bucket] at buckets
  obtain ⟨attempt, rfl, bucket⟩ := List.map_eq_singleton_iff.mp buckets
  have own := List.mem_singleton_self attempt
  have faithful := effort.faithful attempt own
  have dialogue := effort.unfolds.dialogue
  rw [List.flatMap_singleton] at dialogue
  obtain ⟨reports, raised⟩ := overloadedStore_attempt faithful bucket
    (bucket ▸ effort.keys attempt own) dialogue
  have throttled : attempt.isThrottled = true :=
    faithful.isThrottled_iff.mpr ⟨overload, raised, overload_slowsDown⟩
  have unaccounted : ¬ attempt.AccountsForReports := fun accounts => by
    cases raised.symm.trans ((faithful.accountsForReports_iff reports).mp accounts)
  obtain ⟨entry, told, _⟩ := (Option.any_eq_true _ _).mp throttled
  have failed : Attempt.verdict [attempt] =
      .error (.storage (.batchDelete [entry]) .nothing) := by
    unfold Attempt.verdict
    rw [List.filterMap_cons_some told]
    rfl
  refine ⟨[attempt], .batchDelete [entry], after, failed ▸ ran, effort, ?_, attempt, own, reports,
    throttled, unaccounted⟩
  refine (Attempt.worthRetry_iff effort.faithful failed).mpr fun other inside _ => ?_
  rw [List.mem_singleton.mp inside]
  exact throttled

end BucketStore

end ObjectStorage
