import ObjectStorage.Router
import ObjectStorage.Settings

/-!
# Stacks

A stack wires the components over one choice of settings: a pool of clients, a bucket store over the
pool, a router that hands the schemes of bucket stores to it, and a façade before the router. Each
component is made when it is first asked for, with those that it needs, and is kept; components are
numbered as they are made. Closing a stack closes its pool, if it was made.
-/

namespace ObjectStorage

open Text

/-- A component and the number that it was made under. -/
structure Made (α : Type) where
  number : Nat
  component : α

/-- What is offered to callers that do not wait: it hands everything on. -/
structure Facade (σ : Type) where
  delegate : Made (Router (Scene σ))

namespace Facade

variable {σ : Type}

/-- The locations of a delete are gone through before they are handed on. -/
def delete (facade : Facade σ) (locations : Datum) : Act (Scene σ) Unit := do
  let items ← Act.ofExcept locations.items
  facade.delegate.component.delete (.list items)

def toObjectStore (facade : Facade σ) : ObjectStore (Scene σ) where
  ping := facade.delegate.component.ping
  read := facade.delegate.component.read
  openSink := facade.delegate.component.openSink
  delete := facade.delete

end Facade

/-- A stack: how many components it has made, and those that it keeps. -/
structure Stack (σ : Type) where
  name : Text
  remote : Remote σ
  settings : Settings
  made : Nat
  clients? : Option (Made (ClientPool σ))
  store? : Option (Made (BucketStore σ))
  router? : Option (Made (Router (Scene σ)))
  facade? : Option (Made (Facade σ))

namespace Stack

variable {σ α : Type}

/-- A stack of which no component has been made. -/
def ofSettings (name : Text) (remote : Remote σ) (settings : Settings) : Stack σ :=
  ⟨name, remote, settings, 0, none, none, none, none⟩

/-- Answers with the component that is kept. If there is none, one is made, numbered, and kept. -/
def once (kept : Stack σ → Option (Made α)) (keep : Made α → Stack σ → Stack σ)
    (make : Act (Stack σ) α) : Act (Stack σ) (Made α) := do
  match kept (← Act.get) with
  | some made => return made
  | none =>
    let component ← make
    let made : Made α := ⟨(← Act.get).made, component⟩
    Act.modify fun stack => keep made { stack with made := stack.made + 1 }
    return made

/-- The name of a pool by the number that it is made under: that of the stack, if it is the first of
the components, and another one otherwise. -/
def poolName (name : Text) (number : Nat) : Text :=
  if number = 0 then name else name ++ "#" ++ natText number

/-- The pool of clients. It is made with the options that the settings give, if they give any. -/
def clients : Act (Stack σ) (Made (ClientPool σ)) :=
  once Stack.clients? (fun made stack => { stack with clients? := some made }) do
    let stack ← Act.get
    let options ← Act.ofExcept stack.settings.storeOptions
    return ⟨poolName stack.name stack.made, stack.remote, options, .parameters⟩

def store : Act (Stack σ) (Made (BucketStore σ)) :=
  once Stack.store? (fun made stack => { stack with store? := some made }) do
    return ⟨(← clients).component⟩

/-- A router that hands the schemes of bucket stores to a store. -/
def routerTo (name : Text) (store : BucketStore σ) : Router (Scene σ) :=
  ⟨Routes.empty.register Location.bucketSchemes name, fun _ => store.toObjectStore⟩

def router : Act (Stack σ) (Made (Router (Scene σ))) :=
  once Stack.router? (fun made stack => { stack with router? := some made }) do
    let store ← store
    return routerTo (← Act.get).name store.component

def facade : Act (Stack σ) (Made (Facade σ)) :=
  once Stack.facade? (fun made stack => { stack with facade? := some made }) do
    return ⟨← router⟩

/-- Closes the pool, if it was made. -/
def close (stack : Stack σ) : Act (Scene σ) Unit :=
  match stack.clients? with
  | some pool => pool.component.close
  | none => pure ()

end Stack

end ObjectStorage
