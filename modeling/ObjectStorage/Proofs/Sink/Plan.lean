import ObjectStorage.Sink.Operation

/-!
# Plans

What an operation does with a sink is a plan: single uses of the sink, of which each may depend on
what those before it came to (`SinkOp.plan`). Carrying out the plan of an operation is running the
operation (`SinkOp.outcome_run`), so a property of single uses that plans keep is one of operations
(`SinkPlan.run_follows`).
-/

namespace ObjectStorage

variable {τ υ α β : Type}

/-- A single use of a sink. Leaving a block closes the sink, or aborts it because of a fault. -/
inductive SinkUse
  | write (data : Option (List UInt8))
  | flush
  | tell
  | close
  | abort
  | leave (fault? : Option Fault)
  | look (read : Sink → SinkAnswer)

@[simp] theorem Sink.alone_apply (act : Act Sink α) (state : Sink × τ) :
    Sink.alone act state = ((act state.1).1, ((act state.1).2, state.2)) := rfl

namespace SinkUse

/-- Makes a use of a sink, committing by an act. -/
def run (commit : List UInt8 → Act (Sink × τ) Unit) : SinkUse → Act (Sink × τ) SinkAnswer
  | .write data => .count <$> Sink.alone (Sink.write data)
  | .flush => do
    Sink.alone Sink.flush
    return .nothing
  | .tell => .count <$> Sink.alone Sink.tell
  | .close | .leave none => do
    Sink.close commit
    return .nothing
  | .abort | .leave (some _) => do
    Sink.alone Sink.abort
    return .nothing
  | .look read => do
    let (sink, _) ← Act.get
    return read sink

end SinkUse

/-- Uses of a sink one after the other. What comes next depends on the result of the last. -/
inductive SinkPlan (α : Type)
  | done (answer : α)
  | use (deed : SinkUse) (later : Except Fault SinkAnswer → SinkPlan α)

namespace SinkPlan

/-- One plan and then another. -/
def bind : SinkPlan α → (α → SinkPlan β) → SinkPlan β
  | .done answer, next => next answer
  | .use deed later, next => .use deed fun result => (later result).bind next

/-- Carries out a plan. Faults are results; they do not end it. -/
def run (perform : SinkUse → Act τ SinkAnswer) : SinkPlan α → Act τ α
  | .done answer => pure answer
  | .use deed later => do
    let result ← (perform deed).outcome
    (later result).run perform

/-- One plan and then another is carried out one after the other. -/
theorem run_bind (perform : SinkUse → Act τ SinkAnswer) (plan : SinkPlan α)
    (next : α → SinkPlan β) :
    (plan.bind next).run perform =
      plan.run perform >>= fun answer => (next answer).run perform := by
  induction plan with
  | done answer => simp only [bind, run, pure_bind]
  | use deed later ih => simp only [bind, run, ih, bind_assoc]

/-- A plan can be carried out to its end. -/
theorem run_ok (perform : SinkUse → Act τ SinkAnswer) (plan : SinkPlan α) (state : τ) :
    ∃ answer after, plan.run perform state = (.ok answer, after) := by
  induction plan generalizing state with
  | done answer => exact ⟨answer, state, rfl⟩
  | use deed later ih => exact ih _ _

/-- The plan of one use. -/
def once (deed : SinkUse) : SinkPlan (Except Fault SinkAnswer) :=
  .use deed .done

end SinkPlan

/-- Two acts have the same result, and their states go on being related. -/
def Act.Follows (Related : τ → υ → Prop) (act : Act τ α) (other : Act υ α) : Prop :=
  ∀ state otherState, Related state otherState →
    (act state).1 = (other otherState).1 ∧ Related (act state).2 (other otherState).2

/-- If each use follows another, a plan carried out by the one follows the plan carried out by the
other. -/
theorem SinkPlan.run_follows {Related : τ → υ → Prop} {perform : SinkUse → Act τ SinkAnswer}
    {performOther : SinkUse → Act υ SinkAnswer}
    (follows : ∀ deed, Act.Follows Related (perform deed) (performOther deed)) (plan : SinkPlan α) :
    Act.Follows Related (plan.run perform) (plan.run performOther) := by
  intro state other related
  induction plan generalizing state other with
  | done answer => exact ⟨rfl, related⟩
  | use deed later ih =>
    obtain ⟨same, still⟩ := follows deed state other related
    simp only [SinkPlan.run, Act.bind_apply, Act.outcome_apply, same]
    exact ih _ _ _ still

/-- What every use keeps, a plan keeps. -/
theorem SinkPlan.run_keeps {Kept : τ → Prop} {perform : SinkUse → Act τ SinkAnswer}
    (keeps : ∀ deed state, Kept state → Kept (perform deed state).2) (plan : SinkPlan α) (state : τ)
    (kept : Kept state) : Kept (plan.run perform state).2 := by
  induction plan generalizing state with
  | done answer => exact kept
  | use deed later ih => exact ih _ _ (keeps deed state kept)

namespace SinkOp

/-- The plan to write items one after the other, up to the first that fails. -/
def planEach : List (Option (List UInt8)) → SinkPlan (Except Fault SinkAnswer)
  | [] => .done (.ok .nothing)
  | item :: rest => .use (.write item) fun
    | .ok _ => planEach rest
    | .error fault => .done (.error fault)

/-- How a block was left: by the fault of its body, or by the one that leaving it came to. -/
def left (fault? : Option Fault) (leaving : Except Fault SinkAnswer) : Option Fault :=
  match fault?, leaving with
  | some fault, _ => some fault
  | none, .error fault => some fault
  | none, .ok _ => none

mutual

/-- What an operation does with a sink. -/
def plan : SinkOp → SinkPlan (Except Fault SinkAnswer)
  | .write data => .once (.write data)
  | .writeEach items => planEach items
  | .flush => .once .flush
  | .tell => .once .tell
  | .close => .once .close
  | .abort => .once .abort
  | .writable => .done (.ok (.flag true))
  | .readable => .done (.ok (.flag false))
  | .seekable => .done (.ok (.flag false))
  | .describe => .once (.look fun sink => .text sink.described)
  | .name => .once (.look fun sink => .text sink.name)
  | .state => .once (.look fun sink => .state sink.phase.name sink.isClosed)
  | .fail fault => .done (.error fault)
  | .block body leave => (planBody body).bind fun (answers, fault) =>
    .use (.leave (fault <|> leave)) fun leaving =>
      .done (.ok (.block (left (fault <|> leave) leaving) answers))

/-- What the body of a block does with a sink. -/
def planBody : List SinkOp → SinkPlan (List SinkAnswer × Option Fault)
  | [] => .done ([], none)
  | operation :: rest => (plan operation).bind fun
    | .error fault => .done ([], some fault)
    | .ok answer => (planBody rest).bind fun (answers, fault) => .done (answer :: answers, fault)

end

variable (commit : List UInt8 → Act (Sink × τ) Unit)

/-- The plan of one use comes to the outcome of the use. -/
theorem run_once (deed : SinkUse) :
    (SinkPlan.once deed).run (SinkUse.run commit) = (SinkUse.run commit deed).outcome := by
  funext state
  rfl

/-- Writing one item after the other is carrying out the plan for it. -/
theorem outcome_writeEach (items : List (Option (List UInt8))) :
    (do
      Sink.alone (Sink.writeEach items)
      return .nothing : Act (Sink × τ) SinkAnswer).outcome =
      (planEach items).run (SinkUse.run commit) := by
  induction items with
  | nil => rfl
  | cons item rest ih =>
    funext state
    rcases wrote : Sink.write item state.1 with ⟨result, sink⟩
    have later := congrFun ih (sink, state.2)
    simp only [Act.outcome_apply, Act.bind_apply, Sink.alone_apply] at later
    cases result with
    | error fault =>
      simp only [planEach, SinkPlan.run, SinkUse.run, Act.outcome_apply, Act.bind_apply,
        map_eq_pure_bind, Sink.alone_apply, Sink.writeEach, wrote, Act.pure_apply]
    | ok count =>
      simp only [planEach, SinkPlan.run, SinkUse.run, Act.outcome_apply, Act.bind_apply,
        map_eq_pure_bind, Sink.alone_apply, Sink.writeEach, wrote, Act.pure_apply, ← later]

mutual

/-- The outcome of an operation is that of its plan. -/
theorem outcome_run (operation : SinkOp) :
    (operation.run commit).outcome = operation.plan.run (SinkUse.run commit) := by
  cases operation with
  | write data => rw [plan, run_once, run, SinkUse.run]
  | writeEach items => rw [plan, run, outcome_writeEach]
  | flush => rw [plan, run_once, run, SinkUse.run]
  | tell => rw [plan, run_once, run, SinkUse.run]
  | close => rw [plan, run_once, run, SinkUse.run]
  | abort => rw [plan, run_once, run, SinkUse.run]
  | writable => rw [plan, run]; rfl
  | readable => rw [plan, run]; rfl
  | seekable => rw [plan, run]; rfl
  | describe => rw [plan, run_once, run, SinkUse.run]
  | name => rw [plan, run_once, run, SinkUse.run]
  | state => rw [plan, run_once, run, SinkUse.run]
  | fail fault => rw [plan, run]; rfl
  | block body leave =>
    have inner := runBody_eq body
    funext state
    obtain ⟨⟨answers, fault?⟩, between, ran⟩ :=
      SinkPlan.run_ok (SinkUse.run commit) (planBody body) state
    have bodyRan : runBody commit body state = (.ok (answers, fault?), between) :=
      (congrFun inner state).trans ran
    rw [plan, run, SinkPlan.run_bind]
    simp only [Act.bind_apply, Act.outcome_apply, ran, bodyRan, SinkPlan.run]
    cases (fault? <|> leave) with
    | some fault =>
      simp only [SinkUse.run, Act.bind_apply, Sink.alone_apply, Act.pure_apply, left]
      rfl
    | none =>
      simp only [SinkUse.run, Act.bind_apply, Act.outcome_apply]
      rcases Sink.close commit between with ⟨result, after⟩
      cases result <;> rfl

/-- The body of a block is carried out by its plan. -/
theorem runBody_eq (body : List SinkOp) :
    runBody commit body = (planBody body).run (SinkUse.run commit) := by
  cases body with
  | nil => rw [planBody, runBody]; rfl
  | cons operation rest =>
    have first := outcome_run operation
    have later := runBody_eq rest
    rw [planBody, runBody, SinkPlan.run_bind, ← first]
    congr
    funext result
    cases result with
    | error fault => rfl
    | ok answer =>
      rw [later, SinkPlan.run_bind]
      rfl

end

/-- An operation leaves what its plan leaves. -/
theorem run_state (operation : SinkOp) (state : Sink × τ) :
    (operation.run commit state).2 = (operation.plan.run (SinkUse.run commit) state).2 :=
  congrArg Prod.snd (congrFun (outcome_run commit operation) state)

/-- Runs operations one after the other, also after those that fail. -/
def runAll (commit : List UInt8 → Act (Sink × τ) Unit) :
    List SinkOp → Act (Sink × τ) (List (Except Fault SinkAnswer))
  | [] => return []
  | operation :: rest => do
    let result ← (operation.run commit).outcome
    return result :: (← runAll commit rest)

/-- What operations one after the other do with a sink. -/
def planAll : List SinkOp → SinkPlan (List (Except Fault SinkAnswer))
  | [] => .done []
  | operation :: rest => operation.plan.bind fun result =>
    (planAll rest).bind fun results => .done (result :: results)

/-- Operations one after the other are carried out by their plan. -/
theorem runAll_eq (operations : List SinkOp) :
    runAll commit operations = (planAll operations).run (SinkUse.run commit) := by
  induction operations with
  | nil => rfl
  | cons operation rest ih =>
    rw [runAll, planAll, outcome_run, ih, SinkPlan.run_bind]
    congr
    funext result
    rw [SinkPlan.run_bind]
    rfl

end SinkOp

end ObjectStorage
