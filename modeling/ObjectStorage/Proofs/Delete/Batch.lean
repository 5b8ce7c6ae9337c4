import ObjectStorage.Proofs.Delete.Attempt

/-!
# Batch deletes

A batch delete makes one attempt in each bucket, whatever came of the others, and fails with the
failures of the attempts, of which each has an error record (`BucketStore.delete_run`).
-/

namespace ObjectStorage

open Text

variable {σ : Type}

/-- What a batch delete ends in: the failures of its attempts by their buckets, if there are any. -/
def Attempt.verdict (attempts : List Attempt) : Except Fault Unit :=
  batchEnd (attempts.filterMap Attempt.named?)

namespace BucketStore

variable (store : BucketStore σ)

/-- To log the failure of a bucket writes one error record and asks the service for nothing. -/
theorem logDeleteFailure_unfolds (bucket : Text) (keys : Nat) (problem : StorageProblem)
    (scene : Scene σ) : ∃ after, logDeleteFailure bucket keys problem scene = (.ok (), after) ∧
      Scene.Unfolds store.pool scene [] [Attempt.failureRecord bucket keys problem] after := by
  refine ⟨_, rfl, rfl, ?_, ?_⟩
  · simp [Journal.requests, Event.request?]
  · simp [Journal.errors, Journal.records, Event.record?, Attempt.failureRecord]

/-- The first group is deleted, and what it ends in says how the batch goes on. -/
theorem deleteGroups_cons (bucket : Text) (keys : List Text) (rest : List (Text × List Text)) :
    store.deleteGroups ((bucket, keys) :: rest) = (do
      match ← (store.deleteFrom bucket keys).outcome with
      | .ok _ => store.deleteGroups rest
      | .error (.storage problem cause) =>
        logDeleteFailure bucket keys.length problem
        return (bucket, .storage problem cause) :: (← store.deleteGroups rest)
      | .error fault => Act.fail fault) := rfl

variable {bucket : Text} {keys : List Text} {scene between : Scene σ}

/-- A bucket in which nothing failed leaves the batch to the other buckets. -/
theorem deleteGroups_ok (tried : store.deleteFrom bucket keys scene = (.ok (), between))
    (rest : List (Text × List Text)) :
    store.deleteGroups ((bucket, keys) :: rest) scene = store.deleteGroups rest between := by
  have told : (store.deleteFrom bucket keys).outcome scene = (.ok (.ok ()), between) := by
    rw [Act.outcome_apply, tried]
  rw [deleteGroups_cons, Act.bind_ok told]

/-- A failure of the store in one bucket is logged and put in front of those in the others. -/
theorem deleteGroups_failed {problem : StorageProblem} {cause : Cause}
    (tried : store.deleteFrom bucket keys scene = (.error (.storage problem cause), between)) :
    ∃ logged, Scene.Unfolds store.pool between []
        [Attempt.failureRecord bucket keys.length problem] logged ∧
      ∀ rest, store.deleteGroups ((bucket, keys) :: rest) scene = (do
        return (bucket, Fault.storage problem cause) :: (← store.deleteGroups rest)) logged := by
  have told : (store.deleteFrom bucket keys).outcome scene =
      (.ok (.error (.storage problem cause)), between) := by
    rw [Act.outcome_apply, tried]
  obtain ⟨logged, logs, unfolds⟩ :=
    store.logDeleteFailure_unfolds bucket keys.length problem between
  refine ⟨logged, unfolds, fun rest => ?_⟩
  rw [deleteGroups_cons, Act.bind_ok told]
  exact Act.bind_ok logs

/-- Anything else that goes wrong in one bucket ends the batch. -/
theorem deleteGroups_stopped {fault : Fault} (foreign : fault.isStorage = false)
    (tried : store.deleteFrom bucket keys scene = (.error fault, between))
    (rest : List (Text × List Text)) :
    store.deleteGroups ((bucket, keys) :: rest) scene = (.error fault, between) := by
  have told : (store.deleteFrom bucket keys).outcome scene = (.ok (.error fault), between) := by
    rw [Act.outcome_apply, tried]
  rw [deleteGroups_cons, Act.bind_ok told]
  cases fault with
  | storage problem cause => cases foreign
  | _ => rfl

/-- How the first group of a batch went that ran to its end: without a failure, or with one that
stands in front of those of the others. -/
theorem deleteGroups_ran {rest : List (Text × List Text)} {failures : List (Text × Fault)}
    {after : Scene σ} (ran : store.deleteGroups ((bucket, keys) :: rest) scene =
      (.ok failures, after)) :
    (∃ next, store.deleteFrom bucket keys scene = (.ok (), next) ∧
      store.deleteGroups rest next = (.ok failures, after)) ∨
    ∃ fault between next others, store.deleteFrom bucket keys scene = (.error fault, between) ∧
      failures = (bucket, fault) :: others ∧ store.deleteGroups rest next = (.ok others, after) ∧
      ∀ groups, store.deleteGroups ((bucket, keys) :: groups) scene = (do
        return (bucket, fault) :: (← store.deleteGroups groups)) next := by
  rcases tried : store.deleteFrom bucket keys scene with ⟨result, between⟩
  cases result with
  | ok nothing =>
    rw [store.deleteGroups_ok tried] at ran
    exact .inl ⟨between, rfl, ran⟩
  | error fault =>
    rcases fault.isStorage_cases with ⟨problem, cause, rfl⟩ | foreign
    · obtain ⟨logged, _, goes⟩ := store.deleteGroups_failed tried
      rw [goes] at ran
      rcases later : store.deleteGroups rest logged with ⟨others, last⟩
      cases others with
      | ok behind =>
        rw [Act.bind_ok later] at ran
        cases ran
        exact .inr ⟨_, between, logged, behind, rfl, rfl, later, goes⟩
      | error fault =>
        rw [Act.bind_error later] at ran
        cases ran
    · rw [store.deleteGroups_stopped foreign tried] at ran
      cases ran

/-- Going group by group, one attempt is made for each, and the failures are collected. -/
theorem deleteGroups_run (groups : List (Text × List Text)) {scene : Scene σ}
    (tame : store.TameFrom scene.remote) :
    ∃ (attempts : List Attempt) (after : Scene σ),
      store.deleteGroups groups scene = (.ok (attempts.filterMap Attempt.named?), after) ∧
      attempts.map (fun attempt => (attempt.bucket, attempt.keys)) = groups ∧
      (∀ attempt ∈ attempts, attempt.Faithful store) ∧
      Scene.Unfolds store.pool scene (attempts.flatMap Attempt.exchanges)
        (attempts.filterMap Attempt.record?) after := by
  induction groups generalizing scene with
  | nil => exact ⟨[], scene, rfl, rfl, by simp, .quiet rfl rfl rfl⟩
  | cons group rest ih =>
    obtain ⟨bucket, keys⟩ := group
    obtain ⟨attempt, between, rfl, rfl, faithful, unfolds, ran⟩ :=
      store.deleteFrom_run bucket keys tame
    cases failure : attempt.failure? with
    | none =>
      obtain ⟨attempts, after, later, groups, allFaithful, laterUnfolds⟩ :=
        ih (tame.later unfolds.dialogue)
      have calm : attempt.result = .ok () := by simp only [Attempt.result, failure]
      have noEntry : attempt.named? = none := by
        simp only [Attempt.named?, failure, Option.map_none]
      have noRecord : attempt.record? = none := by
        simp only [Attempt.record?, failure, Option.map_none]
      refine ⟨attempt :: attempts, after, ?_, ?_, ?_, ?_⟩
      · rw [List.filterMap_cons_none noEntry, store.deleteGroups_ok (calm ▸ ran), later]
      · rw [List.map_cons, groups]
      · exact List.forall_mem_cons.mpr ⟨faithful, allFaithful⟩
      · rw [List.flatMap_cons, List.filterMap_cons_none noRecord]
        exact unfolds.append laterUnfolds
    | some failed =>
      obtain ⟨problem, cause⟩ := failed
      have fails : attempt.result = .error (.storage problem cause) := by
        simp only [Attempt.result, failure]
      obtain ⟨logged, logUnfolds, goes⟩ := store.deleteGroups_failed (fails ▸ ran)
      have both := unfolds.append logUnfolds
      obtain ⟨attempts, after, later, groups, allFaithful, laterUnfolds⟩ :=
        ih (tame.later both.dialogue)
      have entry : attempt.named? = some (attempt.bucket, .storage problem cause) := by
        simp only [Attempt.named?, failure, Option.map_some]
      have record : attempt.record? =
          some (Attempt.failureRecord attempt.bucket attempt.keys.length problem) := by
        simp only [Attempt.record?, failure, Option.map_some]
      refine ⟨attempt :: attempts, after, ?_, ?_, ?_, ?_⟩
      · rw [List.filterMap_cons_some entry, goes, Act.bind_ok later]
        rfl
      · rw [List.map_cons, groups]
      · exact List.forall_mem_cons.mpr ⟨faithful, allFaithful⟩
      · rw [List.flatMap_cons, List.filterMap_cons_some record]
        simpa using both.append laterUnfolds

/-- A delete checks the places of its sequence and goes on with their buckets. -/
theorem delete_listed {locations : Datum} {items : List Datum}
    (listed : locations.items = .ok items) : store.delete locations = Scene.tallied .delete (do
      let parsed ← Act.ofExcept (items.mapM Datum.toObjectLocation)
      let failures ← store.deleteGroups (keysByBucket parsed)
      if !failures.isEmpty then Act.fail (.storage (.batchDelete failures) .nothing)) := by
  unfold delete
  rw [listed]
  rfl

/-- A delete of what is no sequence of places fails at once. -/
theorem delete_unparsed {locations : Datum} {fault : Fault}
    (unfit : (locations.items >>= fun items => items.mapM Datum.toObjectLocation) =
      .error fault) (scene : Scene σ) :
    ∃ counters : List Counter, store.delete locations scene = (.error fault,
      { scene with journal := scene.journal ++ counters.map .count }) := by
  apply Scene.tallied_counts
  rcases Except.bind_error unfit with unlisted | ⟨items, listed, unfit⟩
  · exact Act.bind_error (congrArg (·, scene) unlisted)
  · refine (Act.bind_ok (congrArg (·, scene) listed)).trans ?_
    exact Act.bind_error (congrArg (·, scene) unfit)

/-- A delete ends with the failures of its buckets. -/
theorem delete_parsed {locations : Datum} {items : List Datum} {parsed : List Location}
    (listed : locations.items = .ok items) (fit : items.mapM Datum.toObjectLocation = .ok parsed)
    {result : Except Fault (List (Text × Fault))}
    (ran : store.deleteGroups (keysByBucket parsed) scene = (result, between)) :
    ∃ counters : List Counter, store.delete locations scene = (result >>= batchEnd,
      { between with journal := between.journal ++ counters.map .count }) := by
  rw [store.delete_listed listed]
  apply Scene.tallied_counts
  refine (Act.bind_ok (congrArg (·, scene) fit)).trans ?_
  cases result with
  | error fault => exact Act.bind_error ran
  | ok failures => exact (Act.bind_ok ran).trans (failBatch_apply failures between)

/-- A delete of parsed locations makes one attempt for each group of keys, ends in their verdict,
and writes the records of those that failed. -/
theorem delete_run {locations : Datum} {items : List Datum} {parsed : List Location}
    (listed : locations.items = .ok items) (fit : items.mapM Datum.toObjectLocation = .ok parsed)
    {scene : Scene σ} (tame : store.TameFrom scene.remote) :
    ∃ (attempts : List Attempt) (after : Scene σ),
      store.delete locations scene = (Attempt.verdict attempts, after) ∧
      attempts.map (fun attempt => (attempt.bucket, attempt.keys)) = keysByBucket parsed ∧
      (∀ attempt ∈ attempts, attempt.Faithful store) ∧
      Scene.Unfolds store.pool scene (attempts.flatMap Attempt.exchanges)
        (attempts.filterMap Attempt.record?) after := by
  obtain ⟨attempts, between, ran, groups, faithful, unfolds⟩ :=
    store.deleteGroups_run (keysByBucket parsed) tame
  obtain ⟨counters, ended⟩ := store.delete_parsed listed fit ran
  exact ⟨attempts, _, ended, groups, faithful, unfolds.counted counters⟩

end BucketStore

end ObjectStorage
