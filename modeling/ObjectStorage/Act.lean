import ObjectStorage.Fault

/-!
# Acts

An act works on a state and either answers or fails with a fault. What it did to the state before
it failed stays done. Acts follow one another (`Act.bind`), and a fault can be taken for an answer
(`Act.outcome`) or, unless it is an interruption, recovered from (`Act.caught`).
-/

namespace ObjectStorage

/-- An act on states of type `τ` with answers of type `α`. -/
def Act (τ α : Type) : Type :=
  τ → Except Fault α × τ

namespace Act

variable {τ α β : Type}

def pure (answer : α) : Act τ α :=
  fun state => (.ok answer, state)

def fail (fault : Fault) : Act τ α :=
  fun state => (.error fault, state)

/-- The act that gives a result computed without the state. -/
def ofExcept (result : Except Fault α) : Act τ α :=
  fun state => (result, state)

/-- One act and then, unless it fails, another that depends on its answer. -/
def bind (act : Act τ α) (next : α → Act τ β) : Act τ β :=
  fun state =>
    match act state with
    | (.ok answer, state) => next answer state
    | (.error fault, state) => (.error fault, state)

instance : Monad (Act τ) where
  pure := Act.pure
  bind := Act.bind

def get : Act τ τ :=
  fun state => (.ok state, state)

def modify (change : τ → τ) : Act τ Unit :=
  fun state => (.ok (), change state)

/-- Answers with the result of an act, be it an answer or a fault. -/
def outcome (act : Act τ α) : Act τ (Except Fault α) :=
  fun state =>
    match act state with
    | (result, state) => (.ok result, state)

/-- Answers with the result of an act. Only an interruption still fails. -/
def caught (act : Act τ α) : Act τ (Except Fault α) :=
  fun state =>
    match act state with
    | (.ok answer, state) => (.ok (.ok answer), state)
    | (.error fault, state) =>
      if fault.isInterrupt then (.error fault, state) else (.ok (.error fault), state)

/-- Works on a part of a larger state. -/
def onPart {σ : Type} (part : τ → σ) (put : τ → σ → τ) (act : Act σ α) : Act τ α :=
  fun state =>
    match act (part state) with
    | (result, inner) => (result, put state inner)

@[simp] theorem pure_apply (answer : α) (state : τ) :
    (Pure.pure answer : Act τ α) state = (.ok answer, state) := rfl

@[simp] theorem fail_apply (fault : Fault) (state : τ) :
    (fail fault : Act τ α) state = (.error fault, state) := rfl

@[simp] theorem ofExcept_apply (result : Except Fault α) (state : τ) :
    ofExcept result state = (result, state) := rfl

theorem bind_apply (act : Act τ α) (next : α → Act τ β) (state : τ) :
    (act >>= next) state = match act state with
      | (.ok answer, state) => next answer state
      | (.error fault, state) => (.error fault, state) := rfl

theorem outcome_apply (act : Act τ α) (state : τ) :
    act.outcome state = (.ok (act state).1, (act state).2) := rfl

/-- Acts can be bound from the front or from behind. -/
theorem bind_assoc_apply {γ : Type} (act : Act τ α) (next : α → Act τ β) (last : β → Act τ γ) :
    Act.bind (Act.bind act next) last = Act.bind act fun answer => Act.bind (next answer) last := by
  funext state
  unfold Act.bind
  rcases act state with ⟨_ | _, _⟩ <;> rfl

theorem bind_pure_apply (act : Act τ α) : Act.bind act Act.pure = act := by
  funext state
  unfold Act.bind Act.pure
  rcases act state with ⟨_ | _, _⟩ <;> rfl

instance : LawfulMonad (Act τ) :=
  LawfulMonad.mk' (Act τ) bind_pure_apply (fun _ _ => rfl) bind_assoc_apply

end Act

end ObjectStorage
