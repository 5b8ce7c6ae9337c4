import ObjectStorage.Proofs.Sink.Plan

/-!
# Uses of a sink

A sink has a buffer exactly while it collects (`Sink.Coupled`), which a new one does and every use
keeps (`SinkUse.run_coupled`). So it is spent or collects (`Sink.Coupled.cases`). A spent sink stays
as it is (`SinkUse.run_late`). One that collects goes on collecting (`SinkUse.run_open`), drops what
it has (`SinkUse.run_abort`), or commits it (`SinkUse.run_commit`).
-/

namespace ObjectStorage

variable {τ α : Type}

namespace Sink

/-- A sink collects, and this is what it has collected so far. -/
structure Collects (sink : Sink) (buffer : List UInt8) : Prop where
  phase : sink.phase = .collecting
  buffered : sink.buffer? = some buffer

/-- A sink no longer collects, and what it had is gone. -/
structure Spent (sink : Sink) : Prop where
  closed : sink.isClosed = true
  emptied : sink.buffer? = none

/-- A sink has a buffer exactly while it collects. -/
def Coupled (sink : Sink) : Prop :=
  sink.buffer?.isSome = true ↔ sink.phase = .collecting

variable {sink : Sink} {buffer : List UInt8} {phase : Phase}

/-- A sink does not count as closed exactly if it is collecting. -/
theorem isClosed_eq_false_iff : sink.isClosed = false ↔ sink.phase = .collecting := by
  obtain ⟨name, phase, buffer?⟩ := sink
  cases phase <;> simp [isClosed, Phase.isCollecting]

theorem Collects.isClosed (collects : sink.Collects buffer) : sink.isClosed = false :=
  isClosed_eq_false_iff.mpr collects.phase

/-- A sink that collects is not spent. -/
theorem Collects.not_spent (collects : sink.Collects buffer) : ¬ sink.Spent := by
  intro spent
  cases collects.isClosed.symm.trans spent.closed

/-- A sink that collects goes on with whatever it is given for a buffer. -/
theorem Collects.refilled (collects : sink.Collects buffer) (more : List UInt8) :
    Sink.Collects { sink with buffer? := some more } more :=
  ⟨collects.phase, rfl⟩

theorem Collects.coupled (collects : sink.Collects buffer) : sink.Coupled := by
  rw [Coupled, collects.buffered]
  exact iff_of_true rfl collects.phase

theorem Spent.coupled (spent : sink.Spent) : sink.Coupled := by
  rw [Coupled, spent.emptied, ← isClosed_eq_false_iff, spent.closed]
  exact iff_of_false Bool.false_ne_true nofun

/-- A new sink collects, and has nothing yet. -/
theorem collects_fresh (name : Text) : (fresh name).Collects [] :=
  ⟨rfl, rfl⟩

/-- What ends the collecting leaves a sink spent. -/
theorem spent_ended (sink : Sink) (still : phase.isCollecting = false) : (sink.ended phase).Spent :=
  ⟨by rw [Sink.isClosed, ended, still]; rfl, rfl⟩

/-- A sink whose phase and buffer go together is spent or collects. -/
theorem Coupled.cases (coupled : sink.Coupled) : sink.Spent ∨ ∃ buffer, sink.Collects buffer := by
  cases closed : sink.isClosed with
  | true =>
    refine .inl ⟨closed, Option.eq_none_iff_forall_ne_some.mpr fun buffer buffered => ?_⟩
    have collecting := coupled.mp (buffered ▸ rfl)
    cases closed.symm.trans (isClosed_eq_false_iff.mpr collecting)
  | false =>
    have collecting := isClosed_eq_false_iff.mp closed
    obtain ⟨buffer, buffered⟩ := Option.isSome_iff_exists.mp (coupled.mpr collecting)
    exact .inr ⟨buffer, collecting, buffered⟩

/-- A close of a collecting sink commits what it has while it is closing, and leaves it closed
whatever the commit comes to. -/
theorem close_collecting {commit : List UInt8 → Act (Sink × τ) Unit}
    (collects : sink.Collects buffer) {rest later : τ} {after : Sink} {result : Except Fault Unit}
    (committed : commit buffer (sink.ended .closing, rest) = (result, (after, later))) :
    close commit (sink, rest) = (result, ({ after with phase := .closed }, later)) := by
  obtain ⟨name, phase, buffer?⟩ := sink
  obtain ⟨rfl, rfl⟩ := collects
  have goes : close commit (⟨name, .collecting, some buffer⟩, rest) =
      let left := commit buffer ((Sink.mk name .collecting (some buffer)).ended .closing, rest)
      (left.1, ({ left.2.1 with phase := .closed }, left.2.2)) := rfl
  rw [goes, committed]

end Sink

namespace SinkUse

/-- A use that ends the collecting. -/
def isTerminal : SinkUse → Bool
  | .close | .abort | .leave _ => true
  | _ => false

/-- A use that ends the collecting by a commit. -/
def isCommitting : SinkUse → Bool
  | .close | .leave none => true
  | _ => false

/-- The bytes that a use writes. -/
def writes : SinkUse → List UInt8
  | .write (some bytes) => bytes
  | _ => []

end SinkUse

/-- The result of a use of a sink that does not collect. -/
def SinkUse.lateResult (sink : Sink) : SinkUse → Except Fault SinkAnswer
  | .write _ | .flush | .tell => .error sink.closedFault
  | .close | .abort | .leave _ => .ok .nothing
  | .look read => .ok (read sink)

/-- A spent sink stays as it is, and is not committed. -/
theorem SinkUse.run_late (commit : List UInt8 → Act (Sink × τ) Unit) (deed : SinkUse) {sink : Sink}
    (spent : sink.Spent) (rest : τ) :
    deed.run commit (sink, rest) = (deed.lateResult sink, (sink, rest)) := by
  obtain ⟨name, phase, buffer?⟩ := sink
  obtain ⟨closed, rfl⟩ := spent
  cases phase with
  | collecting => cases closed
  | _ =>
    cases deed with
    | leave fault? => cases fault? <;> rfl
    | _ => rfl

/-- A plan for a spent sink comes to its end without a change. -/
theorem SinkPlan.run_late (commit : List UInt8 → Act (Sink × τ) Unit) (plan : SinkPlan α)
    {sink : Sink} (spent : sink.Spent) (rest : τ) :
    ∃ answer, plan.run (SinkUse.run commit) (sink, rest) = (.ok answer, (sink, rest)) := by
  induction plan with
  | done answer => exact ⟨answer, rfl⟩
  | use deed later ih =>
    obtain ⟨answer, ran⟩ := ih (deed.lateResult sink)
    refine ⟨answer, ?_⟩
    simp only [run, Act.bind_apply, Act.outcome_apply, deed.run_late commit spent rest, ran]

namespace SinkUse

/-- The result of a use of a sink that collects and goes on collecting. -/
def openResult (sink : Sink) (buffer : List UInt8) : SinkUse → Except Fault SinkAnswer
  | .write (some bytes) => .ok (.count bytes.length)
  | .write none => .error (.mishap (.wrongType "not bytes"))
  | .tell => .ok (.count buffer.length)
  | .look read => .ok (read sink)
  | _ => .ok .nothing

variable {sink : Sink} {buffer : List UInt8} {deed : SinkUse}

/-- A use that does not end the collecting adds what it writes. -/
theorem run_open (collects : sink.Collects buffer)
    (calm : deed.isTerminal = false) (commit : List UInt8 → Act (Sink × τ) Unit) (rest : τ) :
    deed.run commit (sink, rest) = (deed.openResult sink buffer,
      ({ sink with buffer? := some (buffer ++ deed.writes) }, rest)) := by
  obtain ⟨name, phase, buffer?⟩ := sink
  obtain ⟨rfl, rfl⟩ := collects
  cases deed with
  | write data =>
    cases data with
    | none =>
      simp only [writes, List.append_nil]
      rfl
    | some bytes => rfl
  | flush | tell | look read =>
    simp only [writes, List.append_nil]
    rfl
  | close | abort | leave fault? => cases calm

/-- A use that ends the collecting without a commit drops what was collected. -/
theorem run_abort (collects : sink.Collects buffer)
    (terminal : deed.isTerminal = true) (uncommitting : deed.isCommitting = false)
    (commit : List UInt8 → Act (Sink × τ) Unit) (rest : τ) :
    deed.run commit (sink, rest) = (.ok .nothing, (sink.ended .aborted, rest)) := by
  obtain ⟨name, phase, buffer?⟩ := sink
  obtain ⟨rfl, rfl⟩ := collects
  cases deed with
  | leave fault? =>
    cases fault? with
    | none => cases uncommitting
    | some fault => rfl
  | abort => rfl
  | close => cases uncommitting
  | write data | flush | tell | look read => cases terminal

/-- A use that commits comes to what the commit comes to, and leaves the sink closed. -/
theorem run_commit (collects : sink.Collects buffer) (committing : deed.isCommitting = true)
    {commit : List UInt8 → Act (Sink × τ) Unit} {rest later : τ} {after : Sink}
    {result : Except Fault Unit}
    (committed : commit buffer (sink.ended .closing, rest) = (result, (after, later))) :
    deed.run commit (sink, rest) =
      (result.map fun _ => .nothing, ({ after with phase := .closed }, later)) := by
  have closes : (do
      Sink.close commit
      return .nothing : Act (Sink × τ) SinkAnswer) (sink, rest) =
      (result.map fun _ => .nothing, ({ after with phase := .closed }, later)) := by
    rw [Act.bind_apply, Sink.close_collecting collects committed]
    cases result <;> rfl
  cases deed with
  | leave fault? =>
    cases fault? with
    | none => exact closes
    | some fault => cases committing
  | close => exact closes
  | write data | flush | tell | abort | look read => cases committing

/-- A use keeps phase and buffer of a sink together, if a commit never gives a spent sink anything
to commit again. -/
theorem run_coupled {commit : List UInt8 → Act (Sink × τ) Unit}
    (keeps : ∀ payload state, state.1.Spent → (commit payload state).2.1.Spent) (deed : SinkUse)
    (state : Sink × τ) (coupled : state.1.Coupled) : (deed.run commit state).2.1.Coupled := by
  obtain ⟨sink, rest⟩ := state
  rcases coupled.cases with spent | ⟨buffer, collects⟩
  · rw [deed.run_late commit spent]
    exact coupled
  cases terminal : deed.isTerminal with
  | false =>
    rw [run_open collects terminal]
    exact (collects.refilled _).coupled
  | true =>
    cases committing : deed.isCommitting with
    | false =>
      rw [run_abort collects terminal committing]
      exact (sink.spent_ended rfl).coupled
    | true =>
      have left := keeps buffer (sink.ended .closing, rest) (sink.spent_ended rfl)
      rcases committed : commit buffer (sink.ended .closing, rest) with ⟨result, after, later⟩
      rw [committed] at left
      rw [run_commit collects committing committed]
      exact Sink.Spent.coupled ⟨rfl, left.emptied⟩

end SinkUse

/-- An operation keeps phase and buffer of a sink together, as each of its uses does. -/
theorem SinkOp.run_coupled {commit : List UInt8 → Act (Sink × τ) Unit}
    (keeps : ∀ payload state, state.1.Spent → (commit payload state).2.1.Spent)
    (operation : SinkOp) (state : Sink × τ) (coupled : state.1.Coupled) :
    (operation.run commit state).2.1.Coupled := by
  rw [operation.run_state]
  exact operation.plan.run_keeps (fun deed state => deed.run_coupled keeps state) state coupled

end ObjectStorage
