import ObjectStorage.Client.Pool
import ObjectStorage.Store
import ObjectStorage.Throttling

/-!
# Bucket stores

A store of objects in the buckets of a remote service. Every operation checks its location before
anything is asked of the service, gets its client from a pool, and turns the faults of the service
into failures of the store. A batch delete goes bucket by bucket, tries every bucket, and collects
what failed.
-/

namespace ObjectStorage

open Text

/-- The most keys that one delete request may have. -/
def batchLimit : Nat := 1000

/-- A list in pieces of a size, the last of which may be shorter. -/
def chunksOf {α : Type} (size : Nat) : List α → List (List α)
  | [] => []
  | first :: rest => (first :: rest.take (size - 1)) :: chunksOf size (rest.drop (size - 1))
termination_by list => list.length
decreasing_by simp only [List.length_drop, List.length_cons]; omega

/-- The pieces of a list are the list. -/
theorem flatten_chunksOf {α : Type} (size : Nat) (list : List α) :
    (chunksOf size list).flatten = list := by
  fun_induction chunksOf size list with
  | case1 => rfl
  | case2 first rest ih => simp [ih]

/-- No piece is empty. -/
theorem ne_nil_of_mem_chunksOf {α : Type} {size : Nat} {list piece : List α}
    (member : piece ∈ chunksOf size list) : piece ≠ [] := by
  fun_induction chunksOf size list with
  | case1 => simp at member
  | case2 first rest ih =>
    rcases List.mem_cons.mp member with head | later
    · simp [head]
    · exact ih later

/-- No piece is longer than the size. -/
theorem length_le_of_mem_chunksOf {α : Type} {size : Nat} (positive : 0 < size)
    {list piece : List α} (member : piece ∈ chunksOf size list) : piece.length ≤ size := by
  fun_induction chunksOf size list with
  | case1 => simp at member
  | case2 first rest ih =>
    rcases List.mem_cons.mp member with head | later
    · simp only [head, List.length_cons, List.length_take]
      omega
    · exact ih later

/-- The location has a scheme of bucket stores. -/
def Location.needBucketScheme (location : Location) : Except Fault Unit :=
  if Location.isBucketScheme location.scheme then .ok ()
  else .error (.ofLocation (.notBucketScheme location))

/-- The location of an object in a bucket. -/
def Datum.toObjectLocation (source : Datum) : Except Fault Location := do
  let location ← source.toLocation
  location.needBucketScheme
  let _ ← location.needAuthority
  let _ ← location.needPath
  return location

def Datum.toBucketLocation (source : Datum) : Except Fault Location := do
  let location ← source.toLocation
  location.needBucketScheme
  let _ ← location.needAuthority
  return location

/-- Puts a key into the group of its bucket; a new bucket comes last. -/
def addToGroup {α : Type} (groups : List (Text × List α)) (group : Text) (member : α) :
    List (Text × List α) :=
  match groups with
  | [] => [(group, [member])]
  | (name, members) :: rest =>
    if name = group then (name, members ++ [member]) :: rest
    else (name, members) :: addToGroup rest group member

/-- The keys of locations by their buckets, in the order of first appearance. -/
def keysByBucket (locations : List Location) : List (Text × List Text) :=
  locations.foldl (fun groups location =>
    addToGroup groups location.authority (Location.keyOfPath location.path)) []

/-- A store whose clients come from a pool. -/
structure BucketStore (σ : Type) where
  pool : ClientPool σ

namespace BucketStore

variable {σ α : Type}

/-- The circumstances of a failure that happens now. -/
def context (store : BucketStore σ) (message : Text) : Act (Scene σ) FailureContext := do
  let scene ← Act.get
  return ⟨store.pool.remote.now scene.remote, store.pool.options.retryAfter, message⟩

/-- Turns the faults of an act into failures of the store. -/
def guarded (store : BucketStore σ) (message : Text) (act : Act (Scene σ) α) :
    Act (Scene σ) α := do
  match ← act.caught with
  | .ok answer => return answer
  | .error fault => do failJudged (← store.context message) fault

def head (store : BucketStore σ) (bucket : Text) : Act (Scene σ) Unit := do
  let client ← store.pool.clientWith "head_bucket" (.text bucket)
  Scene.ask (.headBucket client.number bucket) (store.pool.remote.headBucket client bucket)

/-- Probes the bucket of a location. Any fault is a failure to reach it. -/
def ping (store : BucketStore σ) (source : Datum) : Act (Scene σ) Unit :=
  Scene.tallied .ping do
    let location ← Act.ofExcept source.toBucketLocation
    match ← (store.head location.authority).caught with
    | .ok _ => return ()
    | .error fault =>
      let message := "Failed to reach bucket " ++ location.authority ++ ": " ++ fault.text
      Act.fail (.storage (.probe message) (.fault fault))

def fetch (store : BucketStore σ) (location : Location) : Act (Scene σ) Reply := do
  let client ← store.pool.clientWith "get_object" (.location location)
  let key := Location.keyOfPath location.path
  Scene.ask (.getObject client.number location.authority key)
    (store.pool.remote.getObject client location.authority key)

def bodyOf : Reply → Except Fault Body
  | .body bytes => .ok (.stream bytes)
  | .raw (.table entries) =>
    match entries.lookup ("Body" : Text) with
    | some value => .ok (.other value)
    | none => .error (.mishap (.noEntry "Body"))
  | .raw _ => .error (.mishap (.wrongType "no table"))

def read (store : BucketStore σ) (source : Datum) : Act (Scene σ) Body :=
  Scene.tallied .read do
    let location ← Act.ofExcept source.toObjectLocation
    let reply ← store.guarded ("Failed to read " ++ location.text) (store.fetch location)
    Act.ofExcept (bodyOf reply)

def put (store : BucketStore σ) (location : Location) (payload : List UInt8) :
    Act (Scene σ) Unit := do
  let client ← store.pool.clientWith "put_object" (.location location)
  let key := Location.keyOfPath location.path
  Scene.ask (.putObject client.number location.authority key payload)
    (store.pool.remote.putObject client location.authority key payload)

/-- Stores what a sink has collected. -/
def commit (store : BucketStore σ) (location : Location) (payload : List UInt8) :
    Act (Scene σ) Unit :=
  Scene.tallied .write
    (store.guarded ("Failed to write " ++ location.text) (store.put location payload))

/-- Opens a sink for an object. Nothing is asked of the service before the sink is closed. -/
def openSink (store : BucketStore σ) (source : Datum) : Act (Scene σ) (SinkTarget (Scene σ)) := do
  let location ← Act.ofExcept source.toObjectLocation
  return ⟨location.text, store.commit location⟩

/-- The errors for single keys in the response to a delete request. -/
def keyErrors (response : Datum) : Except Fault (List Datum) := do
  ((← (response.orElse (.table [])).get "Errors").orElse (.list [])).items

/-- Sends delete requests, each for one piece of the keys, and collects the errors for single keys.
A request that fails ends them. -/
def deletePieces (store : BucketStore σ) (client : Client) (bucket : Text) :
    List (List Text) → Act (Scene σ) (List Datum)
  | [] => return []
  | keys :: rest => do
    let response ← store.guarded ("Failed to delete objects in " ++ bucket)
      (Scene.ask (.deleteObjects client.number bucket keys)
        (store.pool.remote.deleteObjects client bucket keys))
    let errors ← Act.ofExcept (keyErrors response)
    return errors ++ (← store.deletePieces client bucket rest)

/-- How many errors for single keys a text shows. -/
def shownKeyErrors : Nat := 10

def keyErrorText (error : Datum) : Except Fault Text := do
  return (← error.get "Key").plain ++ "=" ++ (← error.get "Code").plain

def keyErrorsFault (bucket : Text) (errors : List Datum) : Except Fault Fault := do
  let shown ← (errors.take shownKeyErrors).mapM keyErrorText
  return .storage (.nonRetryable ("Failed to delete " ++ natText errors.length ++
    " object(s) in " ++ bucket ++ ": " ++ Text.intercalate ", " shown) false) .nothing

def deleteFrom (store : BucketStore σ) (bucket : Text) (keys : List Text) :
    Act (Scene σ) Unit := do
  let client ← store.guarded ("Failed to delete objects in " ++ bucket)
    (store.pool.clientWith "delete_objects" (.text bucket))
  let errors ← store.deletePieces client bucket (chunksOf batchLimit keys)
  if !errors.isEmpty then
    Act.fail (← Act.ofExcept (keyErrorsFault bucket errors))

/-- Writes the record of a bucket in which a delete failed. -/
def logDeleteFailure (bucket : Text) (keys : Nat) (problem : StorageProblem) :
    Act (Scene σ) Unit :=
  Scene.log .error
    ("object_delete_failed bucket=" ++ bucket ++ " keys=" ++ natText keys ++ " kind=" ++
      problem.kind.name ++ " error=" ++ problem.text)
    (.table [("bucket", .text bucket), ("keys", .int keys), ("kind", .text problem.kind.name)])

/-- Deletes group by group and answers with the failures by their buckets. What is no failure of
the store ends the deletion. -/
def deleteGroups (store : BucketStore σ) :
    List (Text × List Text) → Act (Scene σ) (List (Text × Fault))
  | [] => return []
  | (bucket, keys) :: rest => do
    match ← (store.deleteFrom bucket keys).outcome with
    | .ok _ => store.deleteGroups rest
    | .error (.storage problem cause) =>
      logDeleteFailure bucket keys.length problem
      return (bucket, .storage problem cause) :: (← store.deleteGroups rest)
    | .error fault => Act.fail fault

/-- Deletes the objects at all locations of a sequence, none of which may be unfit. -/
def delete (store : BucketStore σ) (locations : Datum) : Act (Scene σ) Unit :=
  Scene.tallied .delete do
    let items ← Act.ofExcept locations.items
    let parsed ← Act.ofExcept (items.mapM Datum.toObjectLocation)
    let failures ← store.deleteGroups (keysByBucket parsed)
    if !failures.isEmpty then Act.fail (.storage (.batchDelete failures) .nothing)

def toObjectStore (store : BucketStore σ) : ObjectStore (Scene σ) where
  ping := store.ping
  read := store.read
  openSink := store.openSink
  delete := store.delete

end BucketStore

end ObjectStorage
