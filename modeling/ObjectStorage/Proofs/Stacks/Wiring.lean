import ObjectStorage.Proofs.Dialogue
import ObjectStorage.Stack

/-!
# The wiring of stacks

A stack makes its components when they are asked for, in whatever order. Yet it has only ever made
the first few components of one assembly that could have been wired by hand (`Stack.stage`): each
accessor answers with the assembly's component, and the stack has then made that one and those that
it needs (`Stack.piece_stage`).
-/

namespace ObjectStorage

open Text

variable {σ α : Type}

/-- A part of a stack. -/
inductive Part
  | clients
  | store
  | router
  | facade
  deriving DecidableEq, Repr

/-- How many parts a part needs. -/
def Part.rank : Part → Nat
  | .clients => 0
  | .store => 1
  | .router => 2
  | .facade => 3

/-- A component as it is handed out. -/
inductive Piece (σ : Type)
  | clients (made : Made (ClientPool σ))
  | store (made : Made (BucketStore σ))
  | router (made : Made (Router (Scene σ)))
  | facade (made : Made (Facade σ))

/-- The component that a stack hands out as a part. -/
def Stack.piece : Part → Act (Stack σ) (Piece σ)
  | .clients => .clients <$> clients
  | .store => .store <$> store
  | .router => .router <$> router
  | .facade => .facade <$> facade

/-- One component for each part. -/
structure Assembly (σ : Type) where
  clients : Made (ClientPool σ)
  store : Made (BucketStore σ)
  router : Made (Router (Scene σ))
  facade : Made (Facade σ)

namespace Assembly

/-- Wires a pool over options, a store over the pool, a router that has the store for the schemes of
bucket stores, and a façade before the router. -/
def wired (name : Text) (remote : Remote σ) (options : StoreOptions) : Assembly σ :=
  let clients : Made (ClientPool σ) := ⟨0, ⟨name, remote, options, .parameters⟩⟩
  let store : Made (BucketStore σ) := ⟨1, ⟨clients.component⟩⟩
  let router : Made (Router (Scene σ)) :=
    ⟨2, ⟨Routes.empty.register Location.bucketSchemes name,
      fun _ => store.component.toObjectStore⟩⟩
  ⟨clients, store, router, ⟨3, ⟨router⟩⟩⟩

def piece (assembly : Assembly σ) : Part → Piece σ
  | .clients => .clients assembly.clients
  | .store => .store assembly.store
  | .router => .router assembly.router
  | .facade => .facade assembly.facade

end Assembly

namespace Stack

section Once

variable {kept : Stack σ → Option (Made α)} {keep : Made α → Stack σ → Stack σ}
  {make : Act (Stack σ) α} {stack after : Stack σ}

/-- A component that is kept is the answer. -/
theorem once_kept {made : Made α} (known : kept stack = some made) :
    once kept keep make stack = (.ok made, stack) := by
  have got : (Act.get : Act (Stack σ) (Stack σ)) stack = (.ok stack, stack) := rfl
  unfold once
  rw [Act.bind_ok got, known]
  rfl

/-- Another component is made and gets the next number. -/
theorem once_made {component : α} (unknown : kept stack = none)
    (ran : make stack = (.ok component, after)) : once kept keep make stack =
      (.ok ⟨after.made, component⟩,
        keep ⟨after.made, component⟩ { after with made := after.made + 1 }) := by
  have got : (Act.get : Act (Stack σ) (Stack σ)) stack = (.ok stack, stack) := rfl
  unfold once
  rw [Act.bind_ok got, unknown]
  exact Act.bind_ok ran

end Once

/-- A stack that has made the first components of an assembly. -/
def stage (name : Text) (remote : Remote σ) (settings : Settings) (assembly : Assembly σ)
    (count : Nat) : Stack σ where
  name := name
  remote := remote
  settings := settings
  made := count
  clients? := if 0 < count then some assembly.clients else none
  store? := if 1 < count then some assembly.store else none
  router? := if 2 < count then some assembly.router else none
  facade? := if 3 < count then some assembly.facade else none

theorem stage_zero (name : Text) (remote : Remote σ) (settings : Settings)
    (assembly : Assembly σ) : stage name remote settings assembly 0 =
      ofSettings name remote settings := rfl

section Accessors

variable {name : Text} {remote : Remote σ} {settings : Settings} {assembly : Assembly σ}

/-- An accessor answers with the component of its rank. What it makes for that are the components of
lower ranks. -/
theorem once_stage {kept : Stack σ → Option (Made α)} {keep : Made α → Stack σ → Stack σ}
    {make : Act (Stack σ) α} {rank : Nat} {component : α}
    (known : ∀ count, kept (stage name remote settings assembly count) =
      if rank < count then some ⟨rank, component⟩ else none)
    (keeps : keep ⟨rank, component⟩
        { stage name remote settings assembly rank with made := rank + 1 } =
      stage name remote settings assembly (rank + 1))
    (ran : ∀ count, count ≤ rank → make (stage name remote settings assembly count) =
      (.ok component, stage name remote settings assembly rank)) (count : Nat) :
    once kept keep make (stage name remote settings assembly count) =
      (.ok ⟨rank, component⟩, stage name remote settings assembly (max count (rank + 1))) := by
  by_cases made : rank < count
  · rw [Nat.max_eq_left made]
    exact once_kept ((known count).trans (if_pos made))
  · rw [Nat.max_eq_right (by omega), ← keeps]
    exact once_made ((known count).trans (if_neg made)) (ran count (by omega))

variable (name remote) {options : StoreOptions} (given : settings.storeOptions = .ok options)

include given

theorem clients_stage (count : Nat) :
    clients (stage name remote settings (.wired name remote options) count) =
      (.ok (Assembly.wired name remote options).clients,
        stage name remote settings (.wired name remote options) (max count 1)) := by
  refine once_stage (fun _ => rfl) rfl (fun count low => ?_) count
  obtain rfl : count = 0 := by omega
  have got : (Act.get : Act (Stack σ) (Stack σ))
      (stage name remote settings (.wired name remote options) 0) =
        (.ok (.ofSettings name remote settings), .ofSettings name remote settings) := rfl
  rw [Act.bind_ok got]
  exact Act.bind_ok (congrArg (·, ofSettings name remote settings) given)

theorem store_stage (count : Nat) :
    store (stage name remote settings (.wired name remote options) count) =
      (.ok (Assembly.wired name remote options).store,
        stage name remote settings (.wired name remote options) (max count 2)) := by
  refine once_stage (fun _ => rfl) rfl (fun count low => ?_) count
  have clients := clients_stage name remote given count
  rw [Nat.max_eq_right low] at clients
  exact Act.bind_ok clients

theorem router_stage (count : Nat) :
    router (stage name remote settings (.wired name remote options) count) =
      (.ok (Assembly.wired name remote options).router,
        stage name remote settings (.wired name remote options) (max count 3)) := by
  refine once_stage (fun _ => rfl) rfl (fun count low => ?_) count
  have store := store_stage name remote given count
  rw [Nat.max_eq_right low] at store
  exact Act.bind_ok store

theorem facade_stage (count : Nat) :
    facade (stage name remote settings (.wired name remote options) count) =
      (.ok (Assembly.wired name remote options).facade,
        stage name remote settings (.wired name remote options) (max count 4)) := by
  refine once_stage (fun _ => rfl) rfl (fun count low => ?_) count
  have router := router_stage name remote given count
  rw [Nat.max_eq_right low] at router
  exact Act.bind_ok router

/-- Each part is that of the assembly, whatever was made before. -/
theorem piece_stage (part : Part) (count : Nat) :
    piece part (stage name remote settings (.wired name remote options) count) =
      (.ok ((Assembly.wired name remote options).piece part),
        stage name remote settings (.wired name remote options) (max count (part.rank + 1))) := by
  unfold piece
  cases part with
  | clients => exact (Act.bind_ok (clients_stage name remote given count)).trans rfl
  | store => exact (Act.bind_ok (store_stage name remote given count)).trans rfl
  | router => exact (Act.bind_ok (router_stage name remote given count)).trans rfl
  | facade => exact (Act.bind_ok (facade_stage name remote given count)).trans rfl

end Accessors

end Stack

end ObjectStorage
