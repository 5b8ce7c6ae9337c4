import ObjectStorage.Act
import ObjectStorage.Journal

/-!
# Scenes

Where a store acts: a remote service with a state of its own, the pools of clients, and the journal.
The service is a record of its operations (`Remote`), of which nothing is assumed; a request is
noted before the service sees it.
-/

namespace ObjectStorage

open Time

/-- A connection to the service, and whether it can be closed. -/
structure Client where
  number : Nat
  closable : Bool
  deriving DecidableEq, Repr

/-- What the body of an answer is: a stream of bytes, or something else. -/
inductive Body
  | stream (bytes : List UInt8)
  | other (value : Datum)

/-- What a read of an object answers: a response with a body, or whatever else came. -/
inductive Reply
  | body (bytes : List UInt8)
  | raw (response : Datum)

/-- A remote service with states of type `σ`: the time it is called at, the making of clients,
which may come to nothing, and the requests of a client. -/
structure Remote (σ : Type) where
  now : σ → Instant
  build : ClientOptions → Act σ (Option Client)
  headBucket : Client → (bucket : Text) → Act σ Unit
  getObject : Client → (bucket key : Text) → Act σ Reply
  putObject : Client → (bucket key : Text) → (body : List UInt8) → Act σ Unit
  deleteObjects : Client → (bucket : Text) → (keys : List Text) → Act σ Datum
  close : Client → Act σ Unit

/-- The clients of a pool by their options, and the options that clients were asked for, in the
order of their first use. -/
structure PoolState where
  clients : List (ClientOptions × Option Client)
  order : List ClientOptions

/-- A pool that nobody has asked for a client. -/
def PoolState.empty : PoolState := ⟨[], []⟩

/-- The state that stores act on. Pools are known by their names. -/
structure Scene (σ : Type) where
  remote : σ
  pools : Text → PoolState
  journal : Journal

namespace Scene

variable {σ α : Type}

def start (remote : σ) : Scene σ :=
  ⟨remote, fun _ => .empty, []⟩

def note (event : Event) : Act (Scene σ) Unit :=
  Act.modify fun scene => { scene with journal := scene.journal ++ [event] }

def log (severity : Severity) (message : Text) (details : Datum) : Act (Scene σ) Unit :=
  note (.record ⟨severity, storeLogger, message, details⟩)

/-- Lets the remote service act. -/
def remotely (act : Act σ α) : Act (Scene σ) α :=
  act.onPart Scene.remote fun scene remote => { scene with remote }

/-- Notes a request and lets the remote service act on it. -/
def ask (request : Request) (act : Act σ α) : Act (Scene σ) α := do
  note (.request request)
  remotely act

def pool (name : Text) : Act (Scene σ) PoolState :=
  fun scene => (.ok (scene.pools name), scene)

def setPool (name : Text) (state : PoolState) : Act (Scene σ) Unit :=
  Act.modify fun scene =>
    { scene with pools := fun other => if other = name then state else scene.pools other }

/-- Counts an operation by how it ends: by its kind when it fails in the store's own terms, and not
at all when it fails otherwise. That it took its time is counted always. -/
def tallied (operation : Operation) (act : Act (Scene σ) α) : Act (Scene σ) α := do
  let result ← act.outcome
  match result with
  | .ok _ => note (.count (.operations operation .ok))
  | .error (.storage problem _) => note (.count (.operations operation (.failed problem.kind)))
  | .error _ => pure ()
  note (.count (.durations operation))
  Act.ofExcept result

end Scene

end ObjectStorage
