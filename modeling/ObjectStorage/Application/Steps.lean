import ObjectStorage.Application

/-!
# Steps of an application

What can be asked of an application and its stacks, one step after the other. A step that makes or
takes a stack turns to it; the others concern the stack turned to last. Components answer with who
they are: the same component is the same every time.
-/

namespace ObjectStorage

namespace Application

/-- A component, known by its number and that of the stack that made it. -/
inductive Component
  | stack (number : Nat)
  | clients (stack number : Nat)
  | store (stack number : Nat)
  | router (stack number : Nat)
  | facade (stack number : Nat)
  | client (number : Nat)
  | settings (number : Nat)
  deriving DecidableEq, Repr

/-- A step. -/
inductive Step
  | makeStack (settings : List (Text × Datum))
  | takeStack
  | clients
  | store
  | router
  | facade
  | delegate
  | schemes
  | options
  | stackSettings
  | clientAt (target : Datum)
  | close
  | ownRouter
  | ownSettings
  | forgetSettings
  | forgetStack
  | setVariable (name : Text) (value : Option Text)
  /-- A step that comes to nothing but a fault. -/
  | fail (fault : Fault)

/-- What a step answers. -/
inductive Answer
  | nothing
  | component (component : Component)
  | schemes (names : List Text)
  | options (options : StoreOptions)
  | settings (settings : Settings)
  | numbered (component : Component) (settings : Settings)

/-- An application and the stack turned to last. -/
structure Walk (σ : Type) where
  application : Application σ
  current : Option Nat

namespace Walk

variable {σ α : Type}

def lift (act : Act (Application σ) α) : Act (Walk σ) α :=
  act.onPart Walk.application fun walk application => { walk with application }

/-- Turns to a stack. -/
def turnTo (number : Nat) : Act (Walk σ) Answer := do
  Act.modify fun walk => { walk with current := some number }
  return .component (.stack number)

def current? : Act (Walk σ) Nat := do
  match (← Act.get).current with
  | some number => return number
  | none => Act.fail (.mishap (.noMethod "NoneType" "settings"))

/-- Acts on the stack turned to last, and answers with its number too. -/
def onCurrent (act : Act (Stack σ) α) : Act (Walk σ) (Nat × α) := do
  let number ← current?
  return (number, ← lift (onStack number act))

/-- Answers with a component of the stack turned to last. -/
def component (identity : Nat → Nat → Component) (act : Act (Stack σ) (Made α)) :
    Act (Walk σ) Answer := do
  let (stack, made) ← onCurrent act
  return .component (identity stack made.number)

def perform : Step → Act (Walk σ) Answer
  | .makeStack entries => do
    let settings ← Act.ofExcept (Settings.ofEntries entries)
    turnTo (← lift (addStack settings))
  | .takeStack => do turnTo (← lift stack)
  | .clients => component .clients Stack.clients
  | .store => component .store Stack.store
  | .router => component .router Stack.router
  | .facade => component .facade Stack.facade
  | .delegate => component .router ((·.component.delegate) <$> Stack.facade)
  | .schemes => do
    let (_, router) ← onCurrent Stack.router
    return .schemes router.component.routes.schemes
  | .options => do
    let (_, pool) ← onCurrent Stack.clients
    return .options pool.component.options
  | .stackSettings => do
    let (_, stack) ← onCurrent Act.get
    return .settings stack.settings
  | .clientAt target => do
    let (_, pool) ← onCurrent Stack.clients
    match ← lift (onScene (pool.component.clientAt target)) with
    | some client => return .component (.client client.number)
    | none => return .nothing
  | .close => do
    lift (closeStack (← current?))
    return .nothing
  | .ownRouter => do
    let number ← lift stack
    let router ← lift (onStack number Stack.router)
    return .component (.router number router.number)
  | .ownSettings => do
    let (number, settings) ← lift settings
    return .numbered (.settings number) settings
  | .forgetSettings => do
    lift Application.forgetSettings
    return .nothing
  | .forgetStack => do
    lift Application.forgetStack
    return .nothing
  | .setVariable name value => do
    lift (Application.setVariable name value)
    return .nothing
  | .fail fault => Act.fail fault

def step (walk : Walk σ) (step : Step) : (Except Fault Answer × Journal) × Walk σ :=
  let application := walk.application
  let cleared := { application with scene := { application.scene with journal := [] } }
  match perform step { walk with application := cleared } with
  | (result, walk) => ((result, walk.application.scene.journal), walk)

def run (walk : Walk σ) : List Step → List (Except Fault Answer × Journal)
  | [] => []
  | first :: rest =>
    let (seen, walk) := walk.step first
    seen :: walk.run rest

end Walk

end Application

end ObjectStorage
