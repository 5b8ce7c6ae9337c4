import ObjectStorage.Proofs.Boundary.Operations
import ObjectStorage.Proofs.Delete.BestEffort
import ObjectStorage.Proofs.Locations.Reading

/-!
# The failures of a batch

The failure that a batch delete records for a bucket is a verdict on the fault that was raised
there, with the fault as its cause, or tells of the errors for single keys (`Attempt.Tells`). But a
batch gives a pool the bare names of its buckets, and a name can read as a location. A bucket with
such a name fails for its name, which reads and commits do not.
-/

namespace ObjectStorage

open Text Time

variable {σ : Type}

/-- A pool that is given the name of a bucket takes it for a location, and for an unfit one. -/
def Location.Misread (bucket : Text) : Prop :=
  ∃ problem, StoreOptions.bucketOf (.text bucket) = .error (.ofLocation problem)

/-- A name without a slash is not taken for a location. -/
theorem Location.not_misread {bucket : Text} (slashless : CodePoint.char '/' ∉ bucket.points) :
    ¬ Misread bucket := by
  rintro ⟨problem, unread⟩
  change (if StoreOptions.looksLikeLocation bucket then _ else _ : Except Fault Text) = _ at unread
  rw [not_looksLikeLocation slashless] at unread
  cases unread

/-- Only the bucket of a location that was not read from a text can be taken for one. -/
theorem Datum.not_misread {source : Datum} {location : Location}
    (fit : source.toObjectLocation = .ok location) (plain : ∀ own, source ≠ .location own) :
    ¬ Location.Misread location.authority := by
  have written := Location.Written.of_toLocation plain (Datum.toObjectLocation_ok fit).1
  exact Location.not_misread written.slashless

namespace Attempt

/-- What the failure of an attempt tells: a verdict on the fault raised in it, the errors of single
keys, or that the bucket's name was taken for a location. -/
inductive Tells (attempt : Attempt) : StorageProblem → Cause → Prop
  | raised {fault : Fault} {problem : StorageProblem} (raises : attempt.raised? = some fault)
      (verdict : problem.IsVerdict) : Tells attempt problem (.fault fault)
  | reported {message : Text} (calm : attempt.raised? = none) (reports : attempt.reported ≠ []) :
    Tells attempt (.nonRetryable message false) .nothing
  | misread {problem : LocationProblem}
      (unread : StoreOptions.bucketOf (.text attempt.bucket) = .error (.ofLocation problem)) :
    Tells attempt (.invalidLocation problem) .itself

variable {store : BucketStore σ} {attempt : Attempt}

/-- A fault raised in an attempt is that of the bucket's name, or comes from outside the store. -/
theorem Faithful.raised_source (faithful : attempt.Faithful store)
    (foreign : ∀ exchange ∈ attempt.exchanges, ∀ fault, exchange.fault? = some fault →
      fault.isStorage = false) {fault : Fault} (raised : attempt.raised? = some fault) :
    store.pool.options.identityOf (.text attempt.bucket) = .error fault ∨
      fault.isStorage = false := by
  have obtains := faithful.obtains
  unfold raised? at raised
  unfold exchanges at foreign
  cases given : attempt.client with
  | error other =>
    rw [given] at raised obtains
    obtain rfl : other = fault := Option.some.inj raised
    generalize attempt.opening = opening at obtains foreign
    cases obtains with
    | refused identity => exact .inl identity
    | unkeyable identity changes => exact .inr rfl
    | missing identity => exact .inr rfl
    | failed identity =>
      exact .inr (foreign _ (List.mem_append_left _ List.mem_cons_self) _ rfl)
  | ok client =>
    rw [given] at raised foreign
    obtain ⟨call, inside, ended⟩ := List.exists_of_findSome?_eq_some raised
    have response : call.response = .error fault := by
      unfold PieceCall.fault? at ended
      split at ended
      · cases ended
      · next answered => rw [answered, Option.some.inj ended]
    refine .inr (foreign (call.exchange client attempt.bucket)
      (List.mem_append_right _ (List.mem_map_of_mem inside)) fault ?_)
    unfold PieceCall.exchange
    rw [response]
    rfl

/-- The failure of an attempt tells of what happened in it. -/
theorem Faithful.tells (faithful : attempt.Faithful store)
    (foreign : ∀ exchange ∈ attempt.exchanges, ∀ fault, exchange.fault? = some fault →
      fault.isStorage = false) {problem : StorageProblem} {cause : Cause}
    (failure : attempt.failure? = some (problem, cause)) : attempt.Tells problem cause := by
  cases raised : attempt.raised? with
  | none =>
    by_cases reports : attempt.reported = []
    · cases (faithful.clean raised reports).symm.trans failure
    · obtain ⟨other, told, recorded⟩ := faithful.collected raised reports
      cases recorded.symm.trans failure
      obtain ⟨shown, _, told⟩ := Except.bind_ok told
      cases told
      exact .reported raised reports
  | some fault =>
    obtain ⟨other, source, recorded, surfaces⟩ := faithful.surfaced fault raised
    cases recorded.symm.trans failure
    rcases faithful.raised_source foreign raised with unnamed | outside
    · rcases Except.bind_error unnamed with unread | ⟨_, _, named⟩
      · obtain ⟨told, rfl⟩ := StoreOptions.bucketOf_error unread
        cases surfaces with
        | own cause => exact .misread unread
        | judged own _ => cases own
      · cases named
    · obtain ⟨rfl, verdict⟩ := surfaces.verdict outside
      exact .raised raised verdict

/-- An attempt in a bucket whose name is taken for a location fails for the name. -/
theorem Faithful.misread (faithful : attempt.Faithful store)
    (misread : Location.Misread attempt.bucket) :
    ∃ problem, attempt.failure? = some (.invalidLocation problem, .itself) := by
  obtain ⟨problem, unread⟩ := misread
  have identity : store.pool.options.identityOf (.text attempt.bucket) =
      .error (.ofLocation problem) := StoreOptions.identityOf_of_refused unread
  have client : attempt.client = .error (.ofLocation problem) := by
    have obtains := faithful.obtains
    generalize attempt.opening = opening at obtains
    generalize attempt.client = client at obtains ⊢
    cases obtains with
    | refused refusal => rw [identity] at refusal; cases refusal; rfl
    | unkeyable named | kept named | failed named | missing named | built named =>
      cases identity.symm.trans named
  have raised : attempt.raised? = some (.ofLocation problem) := by
    unfold raised?
    rw [client]
  obtain ⟨told, cause, recorded, surfaces⟩ := faithful.surfaced _ raised
  cases surfaces with
  | own cause => exact ⟨problem, recorded⟩
  | judged own _ => cases own

end Attempt

/-- The failures of a batch all say whether to retry. -/
def OnlyVerdicts (failures : List (Text × Fault)) : Prop :=
  ∀ entry ∈ failures, ∃ problem cause, entry.2 = .storage problem cause ∧ problem.IsVerdict

namespace BucketStore

/-- How a batch delete ends: a place is unfit, all attempts are without a failure, or the failures
of attempts are those of the batch. They all are verdicts exactly if no bucket's name is taken for
a location. -/
inductive DeleteEnds (store : BucketStore σ) (before : Scene σ) (items : List Datum) :
    Except Fault Unit → Scene σ → Prop
  | unfit {problem : LocationProblem} {after : Scene σ}
      (refused : items.mapM Datum.toObjectLocation = .error (.ofLocation problem))
      (unasked : after.journal.requests = before.journal.requests) :
    DeleteEnds store before items (.error (.ofLocation problem)) after
  | done {parsed : List Location} {attempts : List Attempt} {after : Scene σ}
      (fit : items.mapM Datum.toObjectLocation = .ok parsed)
      (effort : store.BestEffort parsed before attempts after)
      (calm : attempts.filterMap Attempt.named? = []) :
    DeleteEnds store before items (.ok ()) after
  | failed {parsed : List Location} {attempts : List Attempt} {after : Scene σ}
      (fit : items.mapM Datum.toObjectLocation = .ok parsed)
      (effort : store.BestEffort parsed before attempts after)
      (fails : attempts.filterMap Attempt.named? ≠ [])
      (told : ∀ attempt ∈ attempts, ∀ problem cause,
        attempt.failure? = some (problem, cause) → attempt.Tells problem cause)
      (verdicts_iff : OnlyVerdicts (attempts.filterMap Attempt.named?) ↔
        ∀ location ∈ parsed, ¬ Location.Misread location.authority) :
    DeleteEnds store before items
      (.error (.storage (.batchDelete (attempts.filterMap Attempt.named?)) .nothing)) after

variable {store : BucketStore σ} {scene : Scene σ}

/-- The failures of attempts all are verdicts exactly if no bucket's name is taken for a
location. -/
theorem BestEffort.onlyVerdicts_iff {parsed : List Location} {attempts : List Attempt}
    {after : Scene σ} (effort : store.BestEffort parsed scene attempts after)
    (told : ∀ attempt ∈ attempts, ∀ problem cause,
      attempt.failure? = some (problem, cause) → attempt.Tells problem cause) :
    OnlyVerdicts (attempts.filterMap Attempt.named?) ↔
      ∀ location ∈ parsed, ¬ Location.Misread location.authority := by
  have bucket_mem (bucket : Text) : (∃ attempt ∈ attempts, attempt.bucket = bucket) ↔
      ∃ location ∈ parsed, location.authority = bucket := by
    rw [← List.mem_map, effort.buckets, List.mem_eraseDups, List.mem_map]
  constructor
  · intro verdicts location inside misread
    obtain ⟨attempt, tried, bucket⟩ := (bucket_mem _).mpr ⟨location, inside, rfl⟩
    obtain ⟨problem, failure⟩ := (effort.faithful attempt tried).misread (bucket ▸ misread)
    have entry : attempt.named? =
        some (attempt.bucket, .storage (.invalidLocation problem) .itself) := by
      unfold Attempt.named?
      rw [failure]
      rfl
    obtain ⟨other, cause, same, verdict⟩ :=
      verdicts _ (List.mem_filterMap.mpr ⟨attempt, tried, entry⟩)
    cases same
    cases verdict
  · intro read entry member
    obtain ⟨attempt, tried, named⟩ := List.mem_filterMap.mp member
    obtain ⟨⟨problem, cause⟩, failure, rfl⟩ := Option.map_eq_some_iff.mp named
    refine ⟨problem, cause, rfl, ?_⟩
    cases told attempt tried problem cause failure with
    | raised raises verdict => exact verdict
    | reported calm reports => trivial
    | misread unread =>
      obtain ⟨location, inside, bucket⟩ := (bucket_mem _).mp ⟨attempt, tried, rfl⟩
      exact (read location inside ⟨_, bucket ▸ unread⟩).elim

/-- A batch with an item that is no place of an object is refused before anything is asked for. -/
theorem delete_unfit {items : List Datum} {fault : Fault}
    (refused : items.mapM Datum.toObjectLocation = .error fault) (scene : Scene σ) :
    ∃ after, store.delete (.list items) scene = (.error fault, after) ∧
      after.journal.requests = scene.journal.requests := by
  have unfit : ((Datum.list items).items >>= fun items => items.mapM Datum.toObjectLocation) =
      .error fault := refused
  obtain ⟨counters, ended⟩ := store.delete_unparsed unfit scene
  refine ⟨_, ended, ?_⟩
  rw [Journal.requests_append, Journal.requests_counts, List.append_nil]

/-- A delete of listed items ends in one of the ways that the boundary allows. -/
theorem delete_ends (behaves : store.Behaves scene.remote) (items : List Datum) :
    store.DeleteEnds scene items (store.delete (.list items) scene).1
      (store.delete (.list items) scene).2 := by
  cases fit : items.mapM Datum.toObjectLocation with
  | error fault =>
    obtain ⟨item, _, refused⟩ := Except.mapM_error fit
    obtain ⟨problem, rfl⟩ := Datum.toObjectLocation_error refused
    obtain ⟨after, ran, unasked⟩ := store.delete_unfit fit scene
    rw [ran]
    exact .unfit fit unasked
  | ok parsed =>
    obtain ⟨attempts, after, ran, effort⟩ :=
      store.delete_attempts (show (Datum.list items).items = .ok items from rfl) fit scene
        behaves.tameFrom
    have told : ∀ attempt ∈ attempts, ∀ problem cause,
        attempt.failure? = some (problem, cause) → attempt.Tells problem cause := by
      intro attempt tried problem cause failure
      refine (effort.faithful attempt tried).tells (fun exchange inside fault ended => ?_) failure
      exact behaves.foreign .here effort.unfolds.dialogue
        (List.mem_flatMap.mpr ⟨attempt, tried, inside⟩) ended
    rw [ran, Attempt.verdict]
    by_cases calm : attempts.filterMap Attempt.named? = []
    · rw [batchEnd_ok_iff.mpr calm]
      exact .done fit effort calm
    · rw [batchEnd_error_iff.mpr ⟨calm, rfl⟩]
      exact .failed fit effort calm told (effort.onlyVerdicts_iff told)

end BucketStore

end ObjectStorage
