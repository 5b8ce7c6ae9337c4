import ObjectStorage.Proofs.Counting.Operations

/-!
# Counted rejections

A probe, a read and a delete look at their places within what is counted, so a rejection is counted
once under its operation. A sink looks at its place when it is opened, and only its commits are
counted as writes: a place that it rejects leaves no trace in the counters
(`BucketStore.rejection_counted_iff`).
-/

namespace ObjectStorage

open Text

variable {σ α : Type}

/-- The counter of an operation steps as often as the journal counts the operation with its
outcome. -/
theorem Journal.tally_operations (journal : Journal) (operation : Operation) (outcome : Outcome) :
    journal.tally (.operations operation outcome) =
      journal.operations.count (operation, outcome) := by
  rw [tally, counters, operations, List.count_filterMap, List.count_filterMap]
  apply List.countP_congr
  intro event _
  rw [beq_iff_eq, beq_iff_eq]
  cases event with
  | count counter => cases counter <;> simp [Event.counter?, Event.operation?]
  | _ => simp [Event.counter?, Event.operation?]

/-- Between two journals a rejection was counted: the counter of the operation with an invalid
location stepped once, and no other counter of operations stepped. -/
def Journal.CountsRejection (operation : Operation) (before after : Journal) : Prop :=
  ∀ other outcome, after.tally (.operations other outcome) =
    before.tally (.operations other outcome) +
      if other = operation ∧ outcome = .failed .invalidLocation then 1 else 0

/-- A journal in which one operation was added, as refused, counts the rejection. -/
theorem Journal.CountsRejection.of_operations {operation : Operation} {before after : Journal}
    (counted : after.operations =
      before.operations ++ [(operation, .failed .invalidLocation)]) :
    CountsRejection operation before after := by
  intro other outcome
  have same : ((operation, Outcome.failed .invalidLocation) == (other, outcome)) = true ↔
      other = operation ∧ outcome = .failed .invalidLocation := by
    rw [beq_iff_eq, Prod.mk.injEq, eq_comm, @eq_comm _ outcome]
  rw [tally_operations, tally_operations, counted, List.count_append, List.count_singleton]
  simp only [same]

/-- A journal that stays as it is counts no rejection. -/
theorem Journal.not_countsRejection_self (operation : Operation) (journal : Journal) :
    ¬ CountsRejection operation journal journal := by
  intro counted
  have stepped := counted operation (.failed .invalidLocation)
  rw [if_pos ⟨rfl, rfl⟩] at stepped
  omega

/-- What is made of the answer has no part in how an act is counted. -/
theorem Act.IsCounted.forget {operation : Operation} {act : Act (Scene σ) α}
    (counted : act.IsCounted operation) :
    (act >>= fun _ => pure () : Act (Scene σ) Unit).IsCounted operation := by
  intro scene
  have own := counted scene
  rcases ran : act scene with ⟨result, after⟩
  rw [ran] at own
  cases result with
  | ok answer =>
    rw [Act.bind_ok ran]
    exact own
  | error fault =>
    rw [Act.bind_error ran, own]
    cases fault <;> rfl

namespace BucketStore

/-- Asks a store for an operation on a place, or for a delete on a row of places. A write begins
with a sink for the place. -/
def attempt (store : BucketStore σ) : Operation → Datum → Act (Scene σ) Unit
  | .ping, place => store.ping place
  | .read, place => do
    let _ ← store.read place
    return ()
  | .write, place => do
    let _ ← store.openSink place
    return ()
  | .delete, places => store.delete places

/-- What is asked of a store is counted, but for the opening of sinks. -/
theorem attempt_isCounted (store : BucketStore σ) {operation : Operation}
    (counted : operation ≠ .write) (places : Datum) : (store.attempt operation places).IsCounted operation := by
  cases operation with
  | ping => exact store.ping_isCounted places
  | read => exact (store.read_isCounted places).forget
  | write => exact (counted rfl).elim
  | delete => exact store.delete_isCounted places

variable {store : BucketStore σ}

/-- Opening a sink leaves everything as it was. -/
theorem attempt_write (place : Datum) (scene : Scene σ) :
    (store.attempt .write place scene).2 = scene := by
  rw [attempt, store.openSink_eq]
  cases place.toObjectLocation <;> rfl

/-- An operation that rejects what it is asked for is counted once, and nothing else is, exactly if
it is no write. A sink that is refused leaves everything as it was. -/
theorem rejection_counted_iff {operation : Operation} {places : Datum} {scene : Scene σ}
    (rejected : IsRefusal (store.attempt operation places scene).1) :
    (Journal.CountsRejection operation scene.journal
        (store.attempt operation places scene).2.journal ↔ operation ≠ .write) ∧
      (operation = .write → (store.attempt operation places scene).2 = scene) := by
  have untouched : operation = .write → (store.attempt operation places scene).2 = scene := by
    rintro rfl
    exact attempt_write places scene
  refine ⟨⟨fun counted isWrite => ?_, fun other => ?_⟩, untouched⟩
  · rw [untouched isWrite] at counted
    exact Journal.not_countsRejection_self operation scene.journal counted
  · obtain ⟨problem, cause, failed⟩ := rejected
    have counted := store.attempt_isCounted other places scene
    rw [failed] at counted
    exact .of_operations counted

/-- A row of places, the second of which is the root of a bucket. -/
def rootedRow : Datum :=
  .list [.text "s3://b/k", .text "S3A://b/", .text "s3n://b/k"]

theorem silentStore_rejection_counted :
    IsRefusal (silentStore.attempt .delete rootedRow (.start ())).1 ∧
      (Journal.CountsRejection .delete (Scene.start ()).journal
        (silentStore.attempt .delete rootedRow (.start ())).2.journal ↔ Operation.delete ≠ .write) ∧
      (Operation.delete = .write →
        (silentStore.attempt .delete rootedRow (.start ())).2 = .start ()) := by
  have rejected : IsRefusal (silentStore.attempt .delete rootedRow (.start ())).1 :=
    ⟨.noPath ⟨"s3a", "b", "/"⟩, .nothing, rfl⟩
  exact ⟨rejected, rejection_counted_iff rejected⟩

/-- A sink for a bucket without a key is refused, and no counter tells of it. -/
theorem silentStore_rejection_uncounted :
    IsRefusal (silentStore.attempt .write (.text "s3://b") (.start ())).1 ∧
      ¬ Journal.CountsRejection .write (Scene.start ()).journal
        (silentStore.attempt .write (.text "s3://b") (.start ())).2.journal := by
  refine ⟨⟨.noPath ⟨"s3", "b", ""⟩, .nothing, rfl⟩, ?_⟩
  rw [attempt_write]
  exact Journal.not_countsRejection_self .write (Scene.start ()).journal

end BucketStore

end ObjectStorage
