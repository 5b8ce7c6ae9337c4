import ObjectStorage.Proofs.Desks
import ObjectStorage.Proofs.Dialogue
import ObjectStorage.Proofs.Sink.Uses
import ObjectStorage.Proofs.Validation

/-!
# Sinks on a desk

However a sink was opened, by a store itself or by a router in front of it, it commits to the store,
and it has a buffer exactly while it collects (`BucketStore.session_hasSinks`).
-/

namespace ObjectStorage

open Text

variable {σ : Type}

/-- An operation on a sink in use keeps its phase and its buffer together. -/
theorem HeldSink.run_coupled (held : HeldSink σ) (coupled : held.sink.Coupled)
    (operation : SinkOp) (scene : Scene σ) :
    (operation.run held.commitBeside (held.sink, scene)).2.1.Coupled :=
  operation.run_coupled (fun _ _ spent => spent) (held.sink, scene) coupled

namespace BucketStore

variable {store : BucketStore σ}

/-- All sinks in use commit to the store, and have a buffer exactly while they collect. -/
def HasSinks (store : BucketStore σ) (desk : Desk σ) : Prop :=
  ∀ entry ∈ desk.sinks, entry.2.sink.Coupled ∧ ∃ location, entry.2.commit = store.commit location

/-- A sink that was opened, straight or by a router, commits to the store. -/
theorem openSink_commits {front : Front} {source : Datum} {scene : Scene σ}
    {target : SinkTarget (Scene σ)}
    (opened : ((front.toObjectStore store).openSink source scene).1 = .ok target) :
    ∃ location, target.commit = store.commit location := by
  have straight (own : Datum) (opened : (store.openSink own scene).1 = .ok target) :
      ∃ location, target.commit = store.commit location := by
    rw [store.openSink_eq] at opened
    cases fit : own.toObjectLocation with
    | error fault =>
      rw [fit] at opened
      cases opened
    | ok location =>
      rw [fit] at opened
      cases opened
      exact ⟨location, rfl⟩
  cases front with
  | straight => exact straight source opened
  | routed routes =>
    have routing : ((Front.routed routes).toObjectStore store).openSink source = (do
        let routed ← Act.ofExcept (routes.route source)
        store.openSink (.location routed.1)) := rfl
    rw [routing] at opened
    cases routed : routes.route source with
    | error fault =>
      rw [routed] at opened
      cases opened
    | ok way =>
      rw [routed] at opened
      exact straight (.location way.1) opened

/-- Every call leaves the sinks in use as they should be. -/
theorem answer_hasSinks (store : BucketStore σ) (call : ClientCall) :
    (store.answer call).Pairs (Holding store.HasSinks) Eq (store.answer call) := by
  have elsewhere {β : Type} (act : Act (Scene σ) β) :
      (Desk.onScene act).Pairs (Holding store.HasSinks) Eq (Desk.onScene act) :=
    .of_keeps fun _ held => held
  cases call with
  | openSink front id location =>
    have opens : (Desk.onScene ((front.toObjectStore store).openSink location)).Pairs
        (Holding store.HasSinks)
        (fun target other => target = other ∧ ∃ place, target.commit = store.commit place)
        (Desk.onScene ((front.toObjectStore store).openSink location)) := by
      rintro desk _ ⟨rfl, held⟩
      refine ⟨?_, rfl, held⟩
      change EndsAlike _ ((front.toObjectStore store).openSink location desk.scene).1
        ((front.toObjectStore store).openSink location desk.scene).1
      cases opened : ((front.toObjectStore store).openSink location desk.scene).1 with
      | error fault => exact .error fault
      | ok target => exact .ok ⟨rfl, openSink_commits opened⟩
    refine opens.bind ?_
    rintro target _ ⟨rfl, commits⟩
    refine Act.Pairs.bind_same (.of_keeps fun desk held entry inside => ?_) fun _ => .pure rfl
    rcases mem_putEntry inside with rfl | old
    · exact ⟨(Sink.collects_fresh target.name).coupled, commits⟩
    · exact held entry old
  | useSink id operation =>
    refine .of_keeps fun desk held => ?_
    change store.HasSinks (Desk.useSink id operation desk).2
    unfold Desk.useSink
    cases found : desk.sinks.lookup id with
    | none => exact held
    | some used =>
      intro entry inside
      rcases mem_putEntry inside with rfl | old
      · obtain ⟨coupled, commits⟩ := held (id, used) (mem_of_lookup found)
        exact ⟨used.run_coupled coupled operation desk.scene, commits⟩
      · exact held entry old
  | ping | delete | writeWhole | closeClients => exact (elsewhere _).bind_same fun _ => .pure rfl
  | read | readWhole | clientAt => exact (elsewhere _).map fun _ _ same => congrArg _ same
  | identityOf => exact Act.Pairs.map (.ofExcept (.refl _)) fun _ _ same => congrArg _ same

/-- After any session the sinks of a desk are those that the store has opened. -/
theorem session_hasSinks (store : BucketStore σ) (calls : List ClientCall) {desk : Desk σ}
    (held : store.HasSinks desk) : store.HasSinks (store.session calls desk).2 := by
  induction calls generalizing desk with
  | nil => exact held
  | cons call rest ih =>
    have found : store.HasSinks desk.cleared := held
    exact ih ((answer_hasSinks store call).keeps found)

/-- The sinks in use pair with themselves, if the store's commits do. -/
theorem HasSinks.pairs {kept : Scene σ → Scene σ → Prop} {desk : Desk σ}
    (sinks : store.HasSinks desk)
    (commits : ∀ location payload, (store.commit location payload).Pairs kept Eq
      (store.commit location payload)) :
    EntriesPair (HeldSink.Pairs kept) desk.sinks desk.sinks := by
  refine List.forall₂_same.mpr fun entry inside => ⟨rfl, rfl, fun payload => ?_⟩
  obtain ⟨_, location, same⟩ := sinks entry inside
  rw [same]
  exact commits location payload

end BucketStore

end ObjectStorage
