import ObjectStorage.Environment
import ObjectStorage.Stack

/-!
# Applications

An application reads its settings from the environment once and wires one stack over them, until
either is forgotten. Stacks that were made otherwise live beside it. A failure is never remembered:
the next one who asks tries again.
-/

namespace ObjectStorage

open Text

/-- An application on a remote service. Settings and stacks are numbered as they are made. -/
structure Application (σ : Type) where
  remote : Remote σ
  environment : Environment
  file : Option (List UInt8)
  settingsMade : Nat
  settings? : Option (Nat × Settings)
  stackList : List (Stack σ)
  stack? : Option Nat
  scene : Scene σ

namespace Application

variable {σ α : Type}

def start (remote : Remote σ) (environment : Environment) (file : Option (List UInt8))
    (state : σ) : Application σ :=
  ⟨remote, environment, file, 0, none, [], none, .start state⟩

def onScene (act : Act (Scene σ) α) : Act (Application σ) α :=
  act.onPart Application.scene fun application scene => { application with scene }

def onEnvironment (act : Act Environment α) : Act (Application σ) α :=
  act.onPart Application.environment fun application environment =>
    { application with environment }

/-- The settings of the application and their number. -/
def settings : Act (Application σ) (Nat × Settings) := do
  let application ← Act.get
  match application.settings? with
  | some known => return known
  | none =>
    let settings ← onEnvironment (Environment.settings application.file)
    let made := (application.settingsMade, settings)
    Act.modify fun application =>
      { application with settings? := some made, settingsMade := application.settingsMade + 1 }
    return made

/-- Makes a stack over settings and answers with its number. -/
def addStack (settings : Settings) : Act (Application σ) Nat := do
  let application ← Act.get
  let number := application.stackList.length
  let stack := Stack.ofSettings (natText number) application.remote settings
  Act.modify fun application => { application with stackList := application.stackList ++ [stack] }
  return number

/-- The number of the application's own stack. -/
def stack : Act (Application σ) Nat := do
  match (← Act.get).stack? with
  | some number => return number
  | none =>
    let (_, settings) ← settings
    let number ← addStack settings
    Act.modify fun application => { application with stack? := some number }
    return number

def onStack (number : Nat) (act : Act (Stack σ) α) : Act (Application σ) α :=
  fun application =>
    match application.stackList[number]? with
    | none => (.error (.mishap (.noMethod "NoneType" "settings")), application)
    | some stack =>
      match act stack with
      | (result, stack) =>
        (result, { application with stackList := application.stackList.set number stack })

/-- The router of the application's own stack. -/
def router : Act (Application σ) (Router (Scene σ)) := do
  return (← onStack (← stack) Stack.router).component

def closeStack (number : Nat) : Act (Application σ) Unit := do
  onScene (← onStack number Act.get).close

def forgetSettings : Act (Application σ) Unit :=
  Act.modify fun application => { application with settings? := none }

def forgetStack : Act (Application σ) Unit :=
  Act.modify fun application => { application with stack? := none }

/-- Sets a variable of the environment, or takes it away. -/
def setVariable (name : Text) (value : Option Text) : Act (Application σ) Unit :=
  onEnvironment <| match value with
    | some value => Environment.set name value
    | none => Environment.unset name

end Application

end ObjectStorage
