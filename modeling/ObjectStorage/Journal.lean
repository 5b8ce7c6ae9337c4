import ObjectStorage.Client.Parameters

/-!
# Journal

What happens at the edge of the store, in order: the requests that go out, the records of the log,
and the steps of the counters.
-/

namespace ObjectStorage

/-- The operations of a store that are counted. -/
inductive Operation
  | ping
  | read
  | write
  | delete
  deriving DecidableEq, Repr

def Operation.name : Operation → String
  | .ping => "ping"
  | .read => "read"
  | .write => "write"
  | .delete => "delete"

/-- How a counted operation ended. -/
inductive Outcome
  | ok
  | failed (kind : FaultKind)
  deriving DecidableEq, Repr

def Outcome.name : Outcome → String
  | .ok => "ok"
  | .failed kind => kind.name

/-- A counter. -/
inductive Counter
  | operations (operation : Operation) (outcome : Outcome)
  | durations (operation : Operation)
  | clientsCreated
  deriving DecidableEq, Repr

/-- A call to a backend that stands behind a router. -/
inductive BackendCall
  | ping (location : Datum)
  | read (location : Datum)
  | write (location : Datum)
  | delete (locations : List Datum)
  | commit (payload : List UInt8)

def BackendCall.name : BackendCall → String
  | .ping _ => "ping"
  | .read _ => "read"
  | .write _ => "write"
  | .delete _ => "delete"
  | .commit _ => "commit"

/-- A request that goes out. Clients are known by their numbers. -/
inductive Request
  | create (options : ClientOptions)
  | connect (parameters : Parameters)
  | headBucket (client : Nat) (bucket : Text)
  | getObject (client : Nat) (bucket key : Text)
  | putObject (client : Nat) (bucket key : Text) (body : List UInt8)
  | deleteObjects (client : Nat) (bucket : Text) (keys : List Text)
  | close (client : Nat)
  | backend (name : Text) (call : BackendCall)

/-- How grave a record of the log is. -/
inductive Severity
  | info
  | warning
  | error
  deriving DecidableEq, Repr

def Severity.name : Severity → String
  | .info => "INFO"
  | .warning => "WARNING"
  | .error => "ERROR"

/-- A record of the log: its text, and details for machines. -/
structure Record where
  severity : Severity
  logger : Text
  message : Text
  details : Datum

def storeLogger : String := "storage"

/-- The logger that tells of the start of the service. -/
def startLogger : String := "catalog_files.startup"

/-- An entry of the journal. -/
inductive Event
  | request (request : Request)
  | record (record : Record)
  | count (counter : Counter)

def Event.request? : Event → Option Request
  | .request r => some r
  | _ => none

def Event.record? : Event → Option Record
  | .record r => some r
  | _ => none

def Event.counter? : Event → Option Counter
  | .count c => some c
  | _ => none

/-- The entries of a journal, the oldest first. -/
abbrev Journal := List Event

namespace Journal

def requests (journal : Journal) : List Request :=
  journal.filterMap Event.request?

def records (journal : Journal) : List Record :=
  journal.filterMap Event.record?

/-- The counters of a journal, each as often as it stepped. -/
def counters (journal : Journal) : List Counter :=
  journal.filterMap Event.counter?

/-- The names that the counter of operations goes by. -/
def operationNames : List String :=
  ["object_io_operations_total", "object_io_operations_created"]

/-- A page of counters tells of operations: always when it shows all counters, and otherwise when
the names that it is asked for have that counter among them and an operation was counted. -/
def tellsOperations (journal : Journal) (names : List String) : Bool :=
  names.isEmpty || names.any operationNames.contains && journal.counters.any fun counter =>
    match counter with
    | .operations .. => true
    | _ => false

def tally (journal : Journal) (counter : Counter) : Nat :=
  journal.counters.count counter

theorem requests_append (first second : Journal) :
    requests (first ++ second) = first.requests ++ second.requests :=
  List.filterMap_append

theorem records_append (first second : Journal) :
    records (first ++ second) = first.records ++ second.records :=
  List.filterMap_append

theorem tally_append (first second : Journal) (counter : Counter) :
    tally (first ++ second) counter = first.tally counter + second.tally counter := by
  simp [tally, counters]

end Journal

end ObjectStorage
