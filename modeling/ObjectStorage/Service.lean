import ObjectStorage.Application
import ObjectStorage.Readiness
import ObjectStorage.Service.Target

/-!
# The service

The surface of the application on the web: whether it lives, whether the locations it depends on
can be reached, its counters, and the pages that describe it. Starting it tells what it serves;
stopping it closes its clients.
-/

namespace ObjectStorage

open Text

/-- What the body of a response is. Counters may be asked for by name; without names all are. -/
inductive ResponseBody
  | json (value : Datum)
  | text (value : Text)
  | counters (names : List String)

/-- A response. -/
structure Response where
  status : Nat
  body : ResponseBody

/-- A page of the service. Two kinds of page describe it, one for machines and one for readers. -/
inductive Page
  | health
  | ready
  | counters
  | interface
  | manual
  deriving DecidableEq, Repr

/-- The methods that a page answers, if not all. -/
def Page.methods? : Page → Option (List Text)
  | .health => some ["GET"]
  | .ready => some ["GET"]
  | .counters => none
  | .interface => some ["GET", "HEAD"]
  | .manual => some ["GET", "HEAD"]

def Page.answers (page : Page) (method : Text) : Bool :=
  match page.methods? with
  | some methods => methods.contains method
  | none => true

/-- A service over an application: whether it shows its counters, and the store to probe if it is
not the application's own. -/
structure Service (σ : Type) where
  showsCounters : Bool
  settings : Settings
  probed : Option (ObjectStore (Scene σ))

namespace Service

variable {σ : Type}

def create (probed : Option (ObjectStore (Scene σ))) : Act (Application σ) (Service σ) := do
  let (_, settings) ← Application.settings
  return ⟨settings.enableMetrics.truthy, settings, probed⟩

/-- The locations that settings want to be reached. -/
def locationsOf (settings : Settings) : Except Fault (List Text) := do
  return (← settings.readyLocations.items).map Datum.plain

def start (service : Service σ) : Act (Application σ) Unit := do
  let router ← Application.router
  let locations ← Act.ofExcept (locationsOf service.settings)
  Application.onScene <| Scene.note <| .record {
    severity := .info
    logger := startLogger
    message := "object storage ready. [event=startup] (schemes=" ++
      Text.intercalate "," router.routes.schemes ++ ", ready_locations=" ++
      natText locations.length ++ ")"
    details := .null }

def stop : Act (Application σ) Unit := do
  Application.closeStack (← Application.stack)

def pages : List (String × Page) :=
  [("/health", .health), ("/ready", .ready), ("/openapi.json", .interface), ("/docs", .manual),
   ("/docs/oauth2-redirect", .manual), ("/redoc", .manual)]

/-- The path that the counters are below. -/
def countersPath : List Char :=
  "/metrics/".toList

/-- The page at a path. The lines below the path of the counters are theirs. A line feed at the end
does not matter. -/
def pageAt? (service : Service σ) (path : List Char) : Option Page :=
  let line := dropFinal '\n' path
  if service.showsCounters && countersPath.isPrefixOf path && !line.contains '\n' then
    some .counters
  else pages.lookup (String.ofList line)

/-- The page of a target. Where none is at its path, one may be at the path with a slash more or
without the slashes at the end. -/
def page? (service : Service σ) (target : Target) : Option Page :=
  service.pageAt? target.path <|> service.pageAt? (Target.turnedPath target.path)

def healthy : Response :=
  ⟨200, .json (.table [("status", .text "ok")])⟩

/-- The response to a probe of the locations. -/
def readyResponse (failures : List (Text × Text)) : Response :=
  if failures.isEmpty then ⟨200, .json (.table [("status", .text "ready")])⟩
  else
    let detail := failures.map fun failure => (failure.1, Datum.text failure.2)
    ⟨200, .json (.table [("status", .text "not_ready"), ("detail", .table detail)])⟩

def probedStore (service : Service σ) : Act (Application σ) (ObjectStore (Scene σ)) := do
  match service.probed with
  | some store => return store
  | none => return (← Application.router).toObjectStore

def ready (service : Service σ) : Act (Application σ) Response := do
  let store ← service.probedStore
  let (_, settings) ← Application.settings
  let locations ← Act.ofExcept (locationsOf settings)
  return readyResponse (← Application.onScene (unreachableAmong store locations))

/-- A response that only says what is the matter. -/
def plainDetail (status : Nat) (detail : Text) : Response :=
  ⟨status, .json (.table [("detail", .text detail)])⟩

/-- How the description of the service tells of a page that answers in a way not said further. -/
def pageInterface (summary identifier : Text) : Datum :=
  let answer := Datum.table [("description", .text "Successful Response"),
    ("content", .table [("application/json", .table [("schema", .table [])])])]
  .table [("get", .table [("summary", .text summary), ("operationId", .text identifier),
    ("responses", .table [("200", answer)])])]

/-- The description of the service for machines. -/
def interface : Datum :=
  .table [
    ("openapi", .text "3.1.0"),
    ("info", .table [
      ("title", .text "Catalog Files Service"),
      ("description", .text "Object storage access layer for the data catalog"),
      ("version", .text "v1.0")]),
    ("paths", .table [
      ("/health", pageInterface "Health" "health_health_get"),
      ("/ready", pageInterface "Ready" "ready_ready_get")])]

/-- The page that a request asks for. The pages for readers are left blank. -/
def serve (service : Service σ) (target : Target) : Page → Act (Application σ) Response
  | .health => return healthy
  | .ready => service.ready
  | .counters => return ⟨200, .counters (target.values "name[]")⟩
  | .interface => return ⟨200, .json interface⟩
  | .manual => return ⟨200, .text ""⟩

def respond (service : Service σ) (method : Text) (target : Target) :
    Act (Application σ) Response :=
  match service.page? target with
  | none => return plainDetail 404 "Not Found"
  | some page =>
    if page.answers method then service.serve target page
    else return plainDetail 405 "Method Not Allowed"

/-- The response to a request whose target is an address. A fault becomes a response, except for an
interruption, and a request for the head alone gets no body. -/
def handle (service : Service σ) (method target : Text) : Act (Application σ) Response := do
  let target ← Act.ofExcept (Target.ofText target)
  match ← (service.respond method target).caught with
  | .ok response =>
    return if method = "HEAD" then { response with body := .text "" } else response
  | .error _ => return ⟨500, .text "Internal Server Error"⟩

end Service

end ObjectStorage
