import ObjectStorage.Proofs.Desks
import ObjectStorage.Proofs.Sink.Uses

/-!
# Commits of sinks in use

A sink in use commits to the scene and leaves the sink itself alone. So an operation on it commits
once, if the sink collected before and is closed after it, and otherwise leaves the scene as it was
(`HeldSink.run_settles`). Only closing the sink and leaving a block can commit (`SinkOp.run_calm`).
-/

namespace ObjectStorage

variable {σ α : Type}

/-- Between two looks at a sink it was committed: it collected, and is closed now. -/
def Sink.HasCommitted (before after : Sink) : Prop :=
  before.isClosed = false ∧ after.phase = .closed

/-- What becomes of a sink in use and of the scene: nothing was committed and the scene stays, or
there was one commit. -/
inductive HeldSink.Settles (held : HeldSink σ) (scene : Scene σ) : Sink → Scene σ → Prop
  | stays {after : Sink} (uncommitted : ¬ held.sink.HasCommitted after) :
    Settles held scene after scene
  | commits {after : Sink} (committed : held.sink.HasCommitted after) (payload : List UInt8) :
    Settles held scene after (held.commit payload scene).2

/-- A sink that stays as it is has committed nothing. -/
theorem Sink.not_hasCommitted_self (sink : Sink) : ¬ sink.HasCommitted sink := by
  rintro ⟨opened, closed⟩
  unfold isClosed at opened
  rw [closed] at opened
  cases opened

/-- The commit of a sink in use finds the sink as it is and leaves it so. -/
theorem HeldSink.commitBeside_apply (held : HeldSink σ) (payload : List UInt8) (sink : Sink)
    (scene : Scene σ) : held.commitBeside payload (sink, scene) =
      ((held.commit payload scene).1, (sink, (held.commit payload scene).2)) := rfl

/-- After what ended the collecting, a plan does nothing more. -/
theorem SinkPlan.run_ended {commit : List UInt8 → Act (Sink × Scene σ) Unit} {deed : SinkUse}
    (later : Except Fault SinkAnswer → SinkPlan α) {sink ended : Sink} {scene after : Scene σ}
    {result : Except Fault SinkAnswer}
    (ran : deed.run commit (sink, scene) = (result, (ended, after)))
    (spent : ended.Spent) :
    ∃ answer, (SinkPlan.use deed later).run (SinkUse.run commit) (sink, scene) =
      (.ok answer, (ended, after)) := by
  obtain ⟨answer, rest⟩ := (later result).run_late commit spent after
  refine ⟨answer, ?_⟩
  rw [SinkPlan.run, Act.bind_apply, Act.outcome_apply, ran]
  exact rest

/-- A plan carried out with a sink comes to its answer, and there was one commit on the way or none.
-/
theorem SinkPlan.run_settles (plan : SinkPlan α) (held : HeldSink σ) (coupled : held.sink.Coupled)
    (scene : Scene σ) :
    ∃ answer after later,
      plan.run (SinkUse.run held.commitBeside) (held.sink, scene) = (.ok answer, (after, later)) ∧
      held.Settles scene after later := by
  induction plan generalizing held with
  | done answer => exact ⟨answer, held.sink, scene, rfl, .stays held.sink.not_hasCommitted_self⟩
  | use deed later ih =>
    rcases coupled.cases with spent | ⟨buffer, collects⟩
    · obtain ⟨answer, ran⟩ := SinkPlan.run_ended later
        (deed.run_late held.commitBeside spent scene) spent
      exact ⟨answer, held.sink, scene, ran, .stays held.sink.not_hasCommitted_self⟩
    cases terminal : deed.isTerminal with
    | false =>
      -- The sink goes on collecting, so it is left to the rest of the plan whether it commits.
      have still := collects.refilled (buffer ++ deed.writes)
      obtain ⟨answer, after, last, ran, settles⟩ := ih (deed.openResult held.sink buffer)
        { held with sink := { held.sink with buffer? := some (buffer ++ deed.writes) } }
        still.coupled
      refine ⟨answer, after, last, ?_, ?_⟩
      · rw [SinkPlan.run, Act.bind_apply, Act.outcome_apply,
          SinkUse.run_open collects terminal held.commitBeside scene]
        exact ran
      · cases settles with
        | stays uncommitted =>
          exact .stays fun committed => uncommitted ⟨still.isClosed, committed.2⟩
        | commits committed payload => exact .commits ⟨collects.isClosed, committed.2⟩ payload
    | true =>
      cases committing : deed.isCommitting with
      | false =>
        obtain ⟨answer, ran⟩ := SinkPlan.run_ended later
          (SinkUse.run_abort collects terminal committing held.commitBeside scene)
          (held.sink.spent_ended rfl)
        exact ⟨answer, _, scene, ran, .stays fun committed => nomatch committed.2⟩
      | true =>
        obtain ⟨answer, ran⟩ := SinkPlan.run_ended later
          (SinkUse.run_commit collects committing
            (held.commitBeside_apply buffer (held.sink.ended .closing) scene)) ⟨rfl, rfl⟩
        exact ⟨answer, _, _, ran, .commits ⟨collects.isClosed, rfl⟩ buffer⟩

/-- An operation on a sink in use commits once or leaves the scene as it was. -/
theorem HeldSink.run_settles (held : HeldSink σ) (coupled : held.sink.Coupled)
    (operation : SinkOp) (scene : Scene σ) :
    held.Settles scene (operation.run held.commitBeside (held.sink, scene)).2.1
      (operation.run held.commitBeside (held.sink, scene)).2.2 := by
  obtain ⟨answer, after, later, ran, settles⟩ := operation.plan.run_settles held coupled scene
  rw [operation.run_state, ran]
  exact settles

/-- Only closing and leaving a block end the collecting by a commit. -/
def SinkOp.isCalm : SinkOp → Bool
  | .close | .block .. => false
  | _ => true

/-- What is done to the sink alone leaves the scene as it was, whatever is made of the answer. -/
theorem Sink.alone_map_scene (act : Act Sink α) (make : α → SinkAnswer)
    (state : Sink × Scene σ) : ((make <$> Sink.alone act) state).2.2 = state.2 := by
  rw [map_eq_pure_bind, Act.bind_apply, Sink.alone_apply]
  rcases act state.1 with ⟨_ | _, _⟩ <;> rfl

/-- An operation that is calm leaves the scene as it is. -/
theorem SinkOp.run_calm {operation : SinkOp} (calm : operation.isCalm = true)
    (commit : List UInt8 → Act (Sink × Scene σ) Unit) (state : Sink × Scene σ) :
    (operation.run commit state).2.2 = state.2 := by
  cases operation with
  | write data => exact Sink.alone_map_scene _ _ state
  | tell => exact Sink.alone_map_scene _ _ state
  | writeEach items => exact Sink.alone_map_scene (Sink.writeEach items) (fun _ => .nothing) state
  | flush => exact Sink.alone_map_scene Sink.flush (fun _ => .nothing) state
  | abort => exact Sink.alone_map_scene Sink.abort (fun _ => .nothing) state
  | close | block => cases calm
  | _ => rfl

/-- A sink that collects and is closed commits what it has. The close ends as the commit does. -/
theorem HeldSink.run_close (held : HeldSink σ) (scene : Scene σ) {buffer : List UInt8}
    (collects : held.sink.Collects buffer) :
    SinkOp.close.run held.commitBeside (held.sink, scene) =
      ((held.commit buffer scene).1.map fun _ => .nothing,
        (held.sink.ended .closed, (held.commit buffer scene).2)) := by
  have closes : SinkUse.close.run held.commitBeside (held.sink, scene) = _ :=
    SinkUse.run_commit collects rfl
      (held.commitBeside_apply buffer (held.sink.ended .closing) scene)
  exact closes

end ObjectStorage
