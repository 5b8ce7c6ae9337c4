import ObjectStorage.BucketStore

/-!
# Routers

A router hands each operation to the store that serves the scheme of its location. A batch delete
is checked as a whole first, then split by stores; the failures of several stores are merged under
the scheme of each store's first location.
-/

namespace ObjectStorage

open Text

/-- Which store, known by its name, serves a scheme; schemes are in small letters. -/
structure Routes where
  byScheme : List (Text × Text)
  deriving DecidableEq, Repr

namespace Routes

/-- No store serves anything. -/
def empty : Routes := ⟨[]⟩

/-- Registers a store for a scheme, in place of the one registered before. -/
def registerOne (routes : Routes) (store scheme : Text) : Routes :=
  ⟨putEntry routes.byScheme (lower scheme) store⟩

def register (routes : Routes) (schemes : List Text) (store : Text) : Routes :=
  schemes.foldl (fun routes scheme => routes.registerOne store scheme) routes

/-- Registers a store for the items of a sequence, which must be texts. Those before one that is not
stay registered. -/
def registerItems (store : Text) : List Datum → Act Routes Unit
  | [] => pure ()
  | .text scheme :: rest => do
    Act.modify fun routes => routes.registerOne store scheme
    registerItems store rest
  | _ :: _ => Act.fail (.mishap (.noMethod "object" "lower"))

/-- Registers a store for all schemes of a sequence. -/
def registerAll (schemes : Datum) (store : Text) : Act Routes Unit := do
  registerItems store (← Act.ofExcept schemes.items)

def schemes (routes : Routes) : List Text :=
  sorted (routes.byScheme.map (·.1))

/-- The location that a datum stands for and the name of the store that serves it. -/
def route (routes : Routes) (source : Datum) : Except Fault (Location × Text) := do
  let location ← source.toLocation
  match routes.byScheme.lookup location.scheme with
  | some store => return (location, store)
  | none => throw (.ofLocation (.unserved location))

/-- The location of an object and the name of the store that serves it. -/
def routeObject (routes : Routes) (source : Datum) : Except Fault (Location × Text) := do
  let (location, store) ← routes.route source
  let _ ← location.needAuthority
  let _ ← location.needKey
  return (location, store)

end Routes

/-- Locations by the stores that serve them, in the order of first appearance. -/
def byStore (routed : List (Location × Text)) : List (Text × List Location) :=
  routed.foldl (fun groups entry => addToGroup groups entry.2 entry.1) []

/-- The scheme of the first of some locations. -/
def leadScheme : List Location → Text
  | [] => ""
  | first :: _ => first.scheme

/-- Puts the failures of a batch among others, each under its scheme and bucket. -/
def mergeBatch (scheme : Text) (failures batch : List (Text × Fault)) :
    List (Text × Fault) :=
  batch.foldl (fun failures entry => putEntry failures (scheme ++ "://" ++ entry.1) entry.2)
    failures

/-- A router over stores known by their names. -/
structure Router (τ : Type) where
  routes : Routes
  stores : Text → ObjectStore τ

namespace Router

variable {τ : Type}

/-- Probes a location by the store that serves it. -/
def ping (router : Router τ) (source : Datum) : Act τ Unit := do
  let (location, store) ← Act.ofExcept (router.routes.route source)
  (router.stores store).ping (.location location)

/-- Reads from the store that serves a location. -/
def read (router : Router τ) (source : Datum) : Act τ Body := do
  let (location, store) ← Act.ofExcept (router.routes.route source)
  (router.stores store).read (.location location)

/-- Opens a sink of the store that serves a location. -/
def openSink (router : Router τ) (source : Datum) : Act τ (SinkTarget τ) := do
  let (location, store) ← Act.ofExcept (router.routes.route source)
  (router.stores store).openSink (.location location)

def deleteAt (router : Router τ) (store : Text) (members : List Location) : Act τ Unit :=
  (router.stores store).delete (.list (members.map .location))

/-- Deletes store by store and merges what fails with the failures so far. -/
def deleteGroups (router : Router τ) (failures : List (Text × Fault)) :
    List (Text × List Location) → Act τ (List (Text × Fault))
  | [] => return failures
  | (store, members) :: rest => do
    match ← (router.deleteAt store members).outcome with
    | .ok _ => router.deleteGroups failures rest
    | .error (.storage (.batchDelete batch) _) =>
      router.deleteGroups (mergeBatch (leadScheme members) failures batch) rest
    | .error (.storage (.invalidLocation problem) cause) =>
      Act.fail (.storage (.invalidLocation problem) cause)
    | .error (.storage problem cause) =>
      router.deleteGroups
        (putEntry failures (leadScheme members ++ "://") (.storage problem cause)) rest
    | .error fault => Act.fail fault

/-- Deletes the objects at all locations of a sequence. All are checked before any store is asked.
What a single store says goes through unchanged. -/
def delete (router : Router τ) (locations : Datum) : Act τ Unit := do
  let items ← Act.ofExcept locations.items
  let routed ← Act.ofExcept (items.mapM router.routes.routeObject)
  match byStore routed with
  | [(store, members)] => router.deleteAt store members
  | groups =>
    let failures ← router.deleteGroups [] groups
    if !failures.isEmpty then Act.fail (.storage (.batchDelete failures) .nothing)

def toObjectStore (router : Router τ) : ObjectStore τ where
  ping := router.ping
  read := router.read
  openSink := router.openSink
  delete := router.delete

end Router

end ObjectStorage
