/-!
# Kinds of failure

The kinds that callers of the store tell apart. Only a throttled call is worth a retry.
-/

namespace ObjectStorage

/-- The kind of a failure. -/
inductive FaultKind
  | invalidLocation
  | throttled
  | fatal
  | io
  deriving DecidableEq, Repr

namespace FaultKind

/-- The name of a kind in records, counters and answers. -/
def name : FaultKind → String
  | .invalidLocation => "invalid_location"
  | .throttled => "throttled"
  | .fatal => "fatal"
  | .io => "io"

/-- The label of a kind within its family. -/
def label : FaultKind → String
  | .invalidLocation => "INVALID_LOCATION"
  | .throttled => "THROTTLED"
  | .fatal => "FATAL"
  | .io => "IO"

def all : List FaultKind :=
  [.invalidLocation, .throttled, .fatal, .io]

/-- All kinds are listed. -/
theorem mem_all (kind : FaultKind) : kind ∈ all := by
  cases kind <;> simp [all]

def ofName? (name : String) : Option FaultKind :=
  all.find? (·.name == name)

/-- A kind is found by its name. -/
theorem ofName?_name (kind : FaultKind) : ofName? kind.name = some kind := by
  cases kind <;> decide

/-- The text of a kind: its label behind the family's name. -/
def text (kind : FaultKind) : String :=
  "FailureKind." ++ kind.label

end FaultKind

end ObjectStorage
