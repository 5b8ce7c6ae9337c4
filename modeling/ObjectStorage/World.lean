import ObjectStorage.ErrorResponse
import ObjectStorage.Store
import ObjectStorage.Text.Utf8

/-!
# Scripted worlds

A remote service that keeps its objects in a table and does as a script says: each operation may be
made to fail or to give a value, always or call by call, for one bucket or for all. Where the
script is silent the service behaves as services do. Backends without a service behind them are
scripted in the same way.
-/

namespace ObjectStorage

open Text Time

/-- What the script makes of a call. -/
inductive Reaction
  | fail (fault : Fault)
  | give (value : Datum)

/-- The reactions to the calls of an operation: the same to all, or one to each as they come. -/
inductive Script
  | always (reaction : Reaction)
  | each (reactions : List (Option Reaction))

/-- The reaction to the next call, and the script for the calls after it. -/
def Script.next : Script → Option Reaction × Script
  | .always reaction => (some reaction, .always reaction)
  | .each [] => (none, .each [])
  | .each (reaction :: rest) => (reaction, .each rest)

/-- The state of a scripted world. -/
structure World where
  now : Instant
  buckets : List Text
  objects : List ((Text × Text) × List UInt8)
  scripts : List (Text × Script)
  clients : Nat

namespace World

/-- The reaction to a call known by a key, if there is a script for the key. -/
def reactionAt (key : Text) (world : World) : Option (Option Reaction × World) :=
  (world.scripts.lookup key).map fun script =>
    let (reaction, rest) := script.next
    (reaction, { world with scripts := putEntry world.scripts key rest })

/-- The reaction to a call of an operation on a place. A script for the place hides the one for the
operation. -/
def react (operation : Text) (place : Option Text) : Act World (Option Reaction) :=
  fun world =>
    let placed := place.bind fun place => reactionAt (operation ++ "@" ++ place) world
    match placed <|> reactionAt operation world with
    | some (reaction, world) => (.ok reaction, world)
    | none => (.ok none, world)

/-- Does as the script says: fails, uses the value given, or behaves as usual. -/
def act {α : Type} (operation : Text) (place : Option Text) (given : Datum → Act World α)
    (usual : Act World α) : Act World α := do
  match ← react operation place with
  | some (.fail fault) => Act.fail fault
  | some (.give value) => given value
  | none => usual

def makeClient (closable : Bool) : Act World (Option Client) :=
  fun world =>
    (.ok (some ⟨world.clients, closable⟩), { world with clients := world.clients + 1 })

/-- Makes a client, or nothing, as the script says. A client that the script gives cannot be
closed. -/
def build : Act World (Option Client) :=
  act "create" none
    (fun value => if value.isText "none" then pure none else makeClient false)
    (makeClient true)

/-- A bucket answers when it is known. -/
def headBucket (bucket : Text) : Act World Unit :=
  act "head_bucket" (some bucket) (fun _ => pure ()) do
    let world ← Act.get
    if world.buckets.contains bucket then return ()
    else Act.fail (.reported "HeadBucket" "404" "Not Found" 404)

def getObject (bucket key : Text) : Act World Reply :=
  act "get_object" (some bucket) (fun value => return .raw value) do
    let world ← Act.get
    match world.objects.lookup (bucket, key) with
    | some bytes => return .body bytes
    | none =>
      Act.fail (.reported "GetObject" "NoSuchKey" "The specified key does not exist." 404)

/-- An object is stored in place of what was there. -/
def putObject (bucket key : Text) (body : List UInt8) : Act World Unit :=
  act "put_object" (some bucket) (fun _ => pure ()) <|
    Act.modify fun world => { world with objects := putEntry world.objects (bucket, key) body }

/-- Objects are removed, and an empty response is given. -/
def deleteObjects (bucket : Text) (keys : List Text) : Act World Datum :=
  act "delete_objects" (some bucket) (fun value => return value) do
    Act.modify fun world =>
      { world with objects := world.objects.filter fun entry =>
          !(entry.1.1 == bucket && keys.contains entry.1.2) }
    return .table []

def closeClient : Act World Unit :=
  act "close" none (fun _ => pure ()) (pure ())

def remote : Remote World where
  now := World.now
  build := fun _ => build
  headBucket := fun _ => headBucket
  getObject := fun _ => getObject
  putObject := fun _ => putObject
  deleteObjects := fun _ => deleteObjects
  close := fun _ => closeClient

def advance (duration : Duration) : Act World Instant := do
  let world ← Act.get
  match world.now.add? duration with
  | some now =>
    Act.modify fun world => { world with now }
    return now
  | none => Act.fail (.mishap .outOfRange)

end World

/-- What a scripted backend has at a location: its name and the location's text. -/
def backendContent (name : Text) (location : Datum) : Text :=
  name ++ ":" ++ location.plain

/-- A call to a scripted backend, which fails when the script says so. Nothing is made of a value
that the script gives. -/
def backendCall (name : Text) (call : BackendCall) (place : Option Text) : Act (Scene World) Unit :=
  Scene.ask (.backend name call)
    (World.act (name ++ "." ++ call.name) place (fun _ => pure ()) (pure ()))

def bytesOfText (text : Text) : Except Fault (List UInt8) :=
  (Utf8.encode text).mapError fun gap => .mishap (.unencodable gap)

/-- A backend without a service behind it. -/
def scriptedBackend (name : Text) : ObjectStore (Scene World) where
  ping location := backendCall name (.ping location) (some location.plain)
  read location := do
    backendCall name (.read location) (some location.plain)
    return .stream (← Act.ofExcept (bytesOfText (backendContent name location)))
  openSink location := do
    backendCall name (.write location) (some location.plain)
    return {
      name := backendContent name location
      commit := fun payload => backendCall name (.commit payload) none }
  delete locations := do
    let items ← Act.ofExcept locations.items
    backendCall name (.delete items) none

end ObjectStorage
