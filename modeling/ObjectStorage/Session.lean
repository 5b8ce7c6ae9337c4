import ObjectStorage.Sink.Operation
import ObjectStorage.Stack
import ObjectStorage.World

/-!
# Sessions

Calls to stores of a scripted world, one after the other. A session has backends under their names,
a router over them, and the sinks that are open under their identifiers. Each step answers and
shows what it left in the journal.
-/

namespace ObjectStorage

open Text Time

/-- A backend: a bucket store, a stack, or a scripted one. -/
inductive Backend
  | buckets (store : BucketStore World)
  | stack (pool : ClientPool World) (router : Router (Scene World))
  | scripted (name : Text)

namespace Backend

def toObjectStore : Backend → ObjectStore (Scene World)
  | .buckets store => store.toObjectStore
  | .stack _ router => router.toObjectStore
  | .scripted name => scriptedBackend name

def pool? : Backend → Option (ClientPool World)
  | .buckets store => some store.pool
  | .stack pool _ => some pool
  | .scripted _ => none

/-- The backend of options. -/
def ofOptions (name : Text) (options : StoreOptions) : Backend :=
  .buckets ⟨name, World.remote, options, .options⟩

/-- The backend of settings, a stack whose components are all made. -/
def ofSettings (name : Text) (settings : Settings) : Except Fault Backend :=
  let making : Act (Stack World) Backend := do
    let router ← Stack.router
    return .stack (← Stack.clients).component router.component
  (making (.ofSettings name World.remote settings)).1

end Backend

/-- A sink in use and where it commits to. -/
structure OpenSink where
  sink : Sink
  commit : List UInt8 → Act (Scene World) Unit

/-- A session. -/
structure Session where
  backends : List (Text × Backend)
  routes : Routes
  sinks : List (Text × OpenSink)
  scene : Scene World

/-- What a step does. -/
inductive Action
  | ping (location : Datum)
  | read (location : Datum)
  | readWhole (location : Datum)
  | openSink (id : Text) (location : Datum)
  /-- The sequence may be gone through before the store is asked. -/
  | delete (locations : Datum) (listed : Bool)
  | writeWhole (location : Datum) (data : Option (List UInt8))
  | closeSink (id : Text)
  | useSink (id : Text) (operation : SinkOp)
  | advance (duration : Duration)
  | clientAt (target : Datum)
  | identityOf (target : Datum)
  | closeClients
  | schemes
  | register (schemes : Datum)
  /-- An action that comes to nothing but a fault. -/
  | fail (fault : Fault)

/-- A step: what it does, and to which backend, or to the router. A façade before the target does
what all stores do, and reads and writes whole objects besides. -/
structure Step where
  target : Text
  facade : Bool
  action : Action

/-- What a step answers. -/
inductive Answer
  | nothing
  | bytes (value : List UInt8)
  | text (value : Text)
  | texts (values : List Text)
  | instant (value : Instant)
  | client (number : Option Nat)
  | identity (options : ClientOptions)
  | sink (answer : SinkAnswer) (phase : String)

namespace Session

def start (backends : List (Text × Backend)) (routes : Routes) (world : World) : Session :=
  ⟨backends, routes, [], .start world⟩

/-- The name of the router among the targets of steps. -/
def routerName : Text := "router"

def knownName (backends : List (Text × Backend)) (name : Text) : Except Fault Text :=
  if (backends.lookup name).isSome then .ok name else .error (.mishap (.noEntry name))

def backendNamed (session : Session) (name : Text) : Except Fault Backend :=
  match session.backends.lookup name with
  | some backend => .ok backend
  | none => .error (.mishap (.noEntry name))

/-- A store that leads back to itself without end. -/
def endlessStore : ObjectStore (Scene World) :=
  let endless : Fault := .mishap (.tooDeep "maximum recursion depth exceeded")
  ⟨fun _ => Act.fail endless, fun _ => Act.fail endless, fun _ => Act.fail endless,
    fun _ => Act.fail endless⟩

/-- The router of a session. Only the names of backends are ever registered, and that of the router
itself, which cannot serve itself; any other would be that of a scripted one. -/
def router (session : Session) : Router (Scene World) :=
  ⟨session.routes, fun name =>
    if name = routerName then endlessStore
    else ((session.backends.lookup name).getD (.scripted name)).toObjectStore⟩

/-- The store that a step is for. -/
def storeNamed (session : Session) (name : Text) : Except Fault (ObjectStore (Scene World)) :=
  if name = routerName then .ok session.router.toObjectStore
  else (session.backendNamed name).map Backend.toObjectStore

def onScene {α : Type} (act : Act (Scene World) α) : Act Session α :=
  act.onPart Session.scene fun session scene => { session with scene }

def withStore {α : Type} (name : Text) (act : ObjectStore (Scene World) → Act (Scene World) α) :
    Act Session α := do
  onScene (act (← Act.ofExcept ((← Act.get).storeNamed name)))

/-- The pool behind the target of a step. Only backends have one, and a façade does not. -/
def poolOf (step : Step) : Act Session (ClientPool World) := do
  let session ← Act.get
  match (session.backends.lookup step.target).bind Backend.pool? with
  | some pool =>
    if step.facade then Act.fail (.mishap (.noEntry step.target)) else return pool
  | none => Act.fail (.mishap (.noEntry step.target))

/-- Asks for a method that only a façade has. -/
def needFacade (step : Step) (method : String) : Act Session Unit := do
  let _ ← Act.ofExcept ((← Act.get).storeNamed step.target)
  if !step.facade then Act.fail (.mishap (.noMethod "object" method))

/-- Uses a sink, whose commits act on the scene. -/
def withSink {α : Type} (id : Text)
    (use : (List UInt8 → Act (Sink × Scene World) Unit) → Act (Sink × Scene World) α) :
    Act Session (α × Sink) :=
  fun session =>
    match session.sinks.lookup id with
    | none => (.error (.mishap (.noEntry id)), session)
    | some used =>
      let commit := fun payload =>
        (used.commit payload).onPart Prod.snd fun (state : Sink × Scene World) scene =>
          (state.1, scene)
      match use commit (used.sink, session.scene) with
      | (result, (sink, scene)) =>
        (result.map fun answer => (answer, sink),
          { session with scene, sinks := putEntry session.sinks id { used with sink } })

def openSink (id target : Text) (location : Datum) : Act Session Text := do
  let place ← withStore target fun store => store.openSink location
  Act.modify fun session =>
    { session with sinks := putEntry session.sinks id ⟨.fresh place.name, place.commit⟩ }
  return place.name

/-- The routes that the target of a step shows. -/
def shownRoutes? (session : Session) (step : Step) : Except Fault (Option Routes) := do
  let _ ← session.storeNamed step.target
  if step.facade then return none
  if step.target = routerName then return some session.routes
  match ← session.backendNamed step.target with
  | .stack _ router => return some router.routes
  | _ => return none

/-- The schemes that the target of a step serves, if it tells them. -/
def schemesOf (step : Step) : Act Session (List Text) := do
  match ← Act.ofExcept ((← Act.get).shownRoutes? step) with
  | some routes => return routes.schemes
  | none => Act.fail (.mishap (.noMethod "object" "supported_schemes"))

def perform (step : Step) : Act Session Answer :=
  let target := step.target
  match step.action with
  | .ping location => do
    withStore target fun store => store.ping location
    return .nothing
  | .read location =>
    .bytes <$> withStore target fun store => store.readWhole location
  | .readWhole location => do
    needFacade step "read_bytes"
    .bytes <$> withStore target fun store => store.readWhole location
  | .openSink id location => .text <$> openSink id target location
  | .delete locations listed => do
    let locations ← if listed then Datum.list <$> Act.ofExcept locations.items else pure locations
    withStore target fun store => store.delete locations
    return .nothing
  | .writeWhole location data => do
    needFacade step "write_bytes"
    withStore target fun store => store.writeWhole location data
    return .nothing
  | .closeSink id => do
    needFacade step "close_sink"
    let _ ← withSink id Sink.close
    return .nothing
  | .useSink id operation => do
    let (answer, sink) ← withSink id fun commit => operation.run commit
    return .sink answer sink.phase.name
  | .advance duration => .instant <$> onScene (Scene.remotely (World.advance duration))
  | .clientAt location => do
    let pool ← poolOf step
    let client ← onScene (pool.clientAt location)
    return .client (client.map (·.number))
  | .identityOf location => do
    let pool ← poolOf step
    .identity <$> Act.ofExcept (pool.options.identityOf location)
  | .closeClients => do
    let pool ← poolOf step
    onScene pool.close
    return .nothing
  | .schemes => .texts <$> schemesOf step
  | .register schemes => do
    let _ ← Act.ofExcept ((← Act.get).storeNamed target)
    (Routes.registerAll schemes target).onPart Session.routes fun session routes =>
      { session with routes }
    return .texts (← Act.get).routes.schemes
  | .fail fault => Act.fail fault

/-- What is seen of a step. -/
structure Seen where
  result : Except Fault Answer
  journal : Journal

def step (session : Session) (step : Step) : Seen × Session :=
  let cleared := { session with scene := { session.scene with journal := [] } }
  match perform step cleared with
  | (result, session) => (⟨result, session.scene.journal⟩, session)

def run (session : Session) : List Step → List Seen × Session
  | [] => ([], session)
  | first :: rest =>
    let (seen, session) := session.step first
    let (others, session) := session.run rest
    (seen :: others, session)

end Session

end ObjectStorage
