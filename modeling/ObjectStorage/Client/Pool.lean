import ObjectStorage.Scene

/-!
# Client pools

A pool makes clients when they are first asked for and keeps one for each identity, that is for all
targets whose options are alike. Closing a pool forgets its clients and closes them in the order in
which their identities were first used; a client that does not close stops the rest.
-/

namespace ObjectStorage

open Text Time

namespace PoolState

def client? (state : PoolState) (options : ClientOptions) : Option Client :=
  (state.clients.find? fun entry => entry.1.alike options).bind (·.2)

/-- Puts what was made for options among the clients, in the place of what was there. -/
def putClient (made : Option Client) (options : ClientOptions) :
    List (ClientOptions × Option Client) → List (ClientOptions × Option Client)
  | [] => [(options, made)]
  | entry :: rest =>
    if entry.1.alike options then (entry.1, made) :: rest
    else entry :: putClient made options rest

def keep (state : PoolState) (options : ClientOptions) (made : Option Client) : PoolState :=
  { state with clients := putClient made options state.clients }

/-- Enters options into the order of first use. -/
def enter (state : PoolState) (options : ClientOptions) : PoolState :=
  if state.order.any fun other => other.alike options then state
  else { state with order := state.order ++ [options] }

/-- The clients kept for the options in order of first use. -/
def inOrder (state : PoolState) : List Client :=
  state.order.filterMap state.client?

/-- The pool without the clients of the options that were ever used. -/
def forget (state : PoolState) : PoolState :=
  { state with
    clients := state.clients.filter fun entry =>
      !state.order.any fun options => entry.1.alike options }

end PoolState

/-- What the maker of clients is handed: the options, or the parameters made from them. -/
inductive Handover
  | options
  | parameters
  deriving DecidableEq, Repr

def Handover.request : Handover → ClientOptions → Request
  | .options, o => .create o
  | .parameters, o => .connect (.ofOptions o)

/-- A pool of clients of a remote service. -/
structure ClientPool (σ : Type) where
  name : Text
  remote : Remote σ
  options : StoreOptions
  handover : Handover

namespace ClientPool

variable {σ : Type}

/-- An option in a record: its text, or a dash where it does not count as given. -/
def shown (option : Datum) : Text :=
  (option.orElse (.text "-")).plain

def createdText (options : ClientOptions) : Text :=
  "s3_client_created endpoint=" ++ shown options.endpointUrl ++ " region=" ++
    shown options.region ++ " path_style=" ++ Datum.boolText options.pathStyle.truthy

/-- The details of the record of a new client. -/
def createdDetails (options : ClientOptions) (kept : Nat) : Datum :=
  .table [("endpoint", options.endpointUrl), ("region", options.region),
    ("cached_clients", .int kept)]

/-- Makes a client for options and keeps it. -/
def create (pool : ClientPool σ) (options : ClientOptions) : Act (Scene σ) (Option Client) := do
  Scene.setPool pool.name ((← Scene.pool pool.name).enter options)
  let made ← Scene.ask (pool.handover.request options) (pool.remote.build options)
  let state := (← Scene.pool pool.name).keep options made
  Scene.setPool pool.name state
  Scene.note (.count .clientsCreated)
  Scene.log .info (createdText options) (createdDetails options state.clients.length)
  return made

def clientOf (pool : ClientPool σ) (options : ClientOptions) :
    Act (Scene σ) (Option Client) := do
  match options.toDatum.unkeyable? with
  | some typeName => Act.fail (.mishap (.unkeyable typeName))
  | none =>
    match (← Scene.pool pool.name).client? options with
    | some client => return some client
    | none => pool.create options

/-- The client for a target, a location or the name of a bucket. Where nothing could be made there
is none. -/
def clientAt (pool : ClientPool σ) (target : Datum) : Act (Scene σ) (Option Client) := do
  pool.clientOf (← Act.ofExcept (pool.options.identityOf target))

/-- The client for a target, of which a method is to be called. -/
def clientWith (pool : ClientPool σ) (method : String) (target : Datum) :
    Act (Scene σ) Client := do
  match ← pool.clientAt target with
  | some client => return client
  | none => Act.fail (.mishap (.noMethod "NoneType" method))

def closeAll (pool : ClientPool σ) : List Client → Act (Scene σ) Unit
  | [] => pure ()
  | client :: rest => do
    if client.closable then Scene.ask (.close client.number) (pool.remote.close client)
    pool.closeAll rest

/-- Closes the pool, which can be used again. -/
def close (pool : ClientPool σ) : Act (Scene σ) Unit := do
  let state ← Scene.pool pool.name
  Scene.setPool pool.name state.forget
  pool.closeAll state.inOrder
  if !state.inOrder.isEmpty then
    Scene.log .info ("s3_clients_closed count=" ++ natText state.inOrder.length) .null

end ClientPool

end ObjectStorage
