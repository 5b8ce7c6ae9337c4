import ObjectStorage.Datum.Text
import ObjectStorage.Json.Reader
import ObjectStorage.Text.Order
import ObjectStorage.Text.Utf8

/-!
# Faults

What can go wrong: failures of the store in its own terms (`StorageProblem`), each with what caused
it; answers of the remote service that report an error; connections that did not get through; and
mishaps outside the store. Each has a text. A failure of the store has a kind, which alone says
whether a retry is worth it.
-/

namespace ObjectStorage

open Text Time

/-- Why a request got no answer from the remote service. -/
inductive TransportProblem
  | unspecified
  | unreachable (url : Datum)
  | connectTimeout (url : Datum)
  | readTimeout (url : Datum)
  | closedEarly (url : Datum)
  | noCredentials
  | noRegion
  | partialCredentials (provider missing : Datum)
  | handler (detail : Datum)
  | handshake (url detail : Datum)

def TransportProblem.text : TransportProblem → Text
  | .unspecified => "An unspecified error occurred"
  | .unreachable url => "Could not connect to the endpoint URL: \"" ++ url.plain ++ "\""
  | .connectTimeout url => "Connect timeout on endpoint URL: \"" ++ url.plain ++ "\""
  | .readTimeout url => "Read timeout on endpoint URL: \"" ++ url.plain ++ "\""
  | .closedEarly url =>
    "Connection was closed before we received a valid response from endpoint URL: \"" ++
      url.plain ++ "\"."
  | .noCredentials => "Unable to locate credentials"
  | .noRegion => "You must specify a region."
  | .partialCredentials provider missing =>
    "Partial credentials found in " ++ provider.plain ++ ", missing: " ++ missing.plain
  | .handler detail => "An HTTP Client raised an unhandled exception: " ++ detail.plain
  | .handshake url detail => "SSL validation failed for " ++ url.plain ++ " " ++ detail.plain

def levelNames : List Text :=
  ["DEBUG", "INFO", "WARNING", "ERROR", "CRITICAL"]

/-- Why settings are not accepted. -/
inductive SettingProblem
  | retryNotPositive
  | bucketNotTable (bucket : Text)
  | unknownLevel
  | notJson (name : Text) (defect : Json.Defect)
  | notTable (name : Text)

def SettingProblem.text : SettingProblem → Text
  | .retryNotPositive => "S3_RETRY_AFTER_SECONDS must be a positive number of seconds."
  | .bucketNotTable bucket =>
    "S3_BUCKET_OPTIONS[" ++ quoted bucket ++ "] must be an object of bucket options."
  | .unknownLevel => "LOG_LEVEL must be one of " ++ Text.intercalate ", " levelNames ++ "."
  | .notJson name defect => name ++ " must be a JSON object: " ++ defect.text
  | .notTable name => name ++ " must be a JSON object"

/-- What goes wrong outside the store. -/
inductive Mishap
  /-- A sink that is no longer open was used. -/
  | closedSink (name : Text)
  /-- A text, given in its described form, is no floating-point number. -/
  | notReal (described : Text)
  /-- A text, given in its described form, is no whole number. -/
  | notInteger (described : Text)
  /-- NaN was to become an integer. -/
  | nanToInteger
  /-- Infinity was to become an integer. -/
  | infinityToInteger
  /-- An instant lies beyond its range. -/
  | outOfRange
  /-- A number is too large for its use. -/
  | tooLarge (detail : Text)
  /-- A name or a value for the environment holds the character NUL. -/
  | embeddedNul
  /-- A name for the environment holds an equals sign. -/
  | illegalName
  /-- A file is not UTF-8. -/
  | undecodable (defect : Utf8.Defect)
  /-- Settings are not accepted. -/
  | setting (problem : SettingProblem)
  /-- Options of a bucket have unknown names. -/
  | unknownOptions (names : List Text)
  /-- A sequence of names is no table of options. -/
  | notPairs (size : Nat)
  /-- The log was set to a level that has no name. -/
  | unknownRootLevel
  /-- A whole number has too many digits to be read. -/
  | manyDigits (count : Nat)
  /-- The parts of a text stand in one another too deeply. -/
  | tooDeep (detail : Text)
  /-- A text has a half of a pair where only characters can be. -/
  | unencodable (gap : Utf8.Gap)
  /-- A format has an unknown conversion. -/
  | badFormat (detail : Text)
  /-- A value that can change was used as a key. -/
  | unkeyable (typeName : String)
  /-- A value has the wrong type. -/
  | wrongType (detail : String)
  /-- A value does not have a method. -/
  | noMethod (typeName method : String)
  /-- A table lacks a key. -/
  | noEntry (key : Text)
  /-- A failure from outside, known by its name and its text. -/
  | foreign (name : String) (text : Text)
  /-- The user interrupted the program. -/
  | interrupt (text : Text)

def Mishap.text : Mishap → Text
  | .closedSink name => "I/O operation on closed sink: " ++ name
  | .notReal described => "could not convert string to float: " ++ described
  | .notInteger described => "invalid literal for int() with base 10: " ++ described
  | .nanToInteger => "cannot convert float NaN to integer"
  | .infinityToInteger => "cannot convert float infinity to integer"
  | .outOfRange => "date value out of range"
  | .tooLarge detail => detail
  | .embeddedNul => "embedded null byte"
  | .illegalName => "illegal environment variable name"
  | .undecodable defect => defect.text
  | .setting problem => problem.text
  | .unknownOptions names => "Unknown S3 bucket option(s): " ++ Text.intercalate ", " names
  | .notPairs size => "dictionary update sequence element #0 has length " ++ natText size ++
      "; 2 is required"
  | .unknownRootLevel => "Unable to configure root logger"
  | .manyDigits count => Number.manyDigitsText count
  | .tooDeep detail => detail
  | .unencodable gap => gap.text
  | .badFormat detail => detail
  | .unkeyable typeName => "unhashable type: '" ++ typeName ++ "'"
  | .wrongType detail => detail
  | .noMethod typeName method => "'" ++ typeName ++ "' object has no attribute '" ++ method ++ "'"
  | .noEntry key => quoted key
  | .foreign _ text => text
  | .interrupt text => text

/-- The mishap of a failure from outside, made with an argument or without. The text of a missing
entry describes its key; any other text is the argument's. -/
def Mishap.ofArgument (name : String) (argument : Option Datum) : Mishap :=
  let text : Text := match argument with
    | none => ""
    | some value => if name = "KeyError" then value.described else value.plain
  if name = "KeyboardInterrupt" then .interrupt text else .foreign name text

mutual

/-- A fault. -/
inductive Fault
  /-- A failure of the store and its cause. -/
  | storage (problem : StorageProblem) (cause : Cause)
  /-- An error reported by the remote service: its response, and the text made when it arose. -/
  | service (response : Datum) (text : Text)
  /-- A request that got no answer. -/
  | transport (problem : TransportProblem)
  /-- A mishap outside the store. -/
  | mishap (m : Mishap)

/-- A failure in the store's own terms. -/
inductive StorageProblem
  | unspecified (message : Text)
  | invalidLocation (problem : LocationProblem)
  /-- The service asked to slow down until an instant. -/
  | throttled (resumeAt : Instant) (message : Text)
  /-- A failure that a retry does not mend, flagged when no answer came. -/
  | nonRetryable (message : Text) (transport : Bool)
  /-- A bucket did not answer a probe. -/
  | probe (message : Text)
  /-- The failures of a batch delete by their targets. -/
  | batchDelete (failures : List (Text × Fault))

/-- What a failure of the store was raised from: nothing, the failure itself, or another fault. -/
inductive Cause
  | nothing
  | itself
  | fault (fault : Fault)

end

namespace Fault

def isThrottled : Fault → Bool
  | .storage (.throttled ..) _ => true
  | _ => false

/-- The instant at which a throttled failure allows the next try. -/
def throttledUntil? : Fault → Option Instant
  | .storage (.throttled resumeAt _) _ => some resumeAt
  | _ => none

def isStorage : Fault → Bool
  | .storage .. => true
  | _ => false

/-- The fault is an interruption, which no recovery stops. -/
def isInterrupt : Fault → Bool
  | .mishap (.interrupt _) => true
  | _ => false

end Fault

def latest? : List Instant → Option Instant
  | [] => none
  | first :: rest => some (rest.foldl .later first)

namespace StorageProblem

/-- The kind of a failure. A batch is throttled when all its failures are. -/
def kind : StorageProblem → FaultKind
  | .unspecified _ => .fatal
  | .invalidLocation _ => .invalidLocation
  | .throttled .. => .throttled
  | .nonRetryable .. => .fatal
  | .probe _ => .io
  | .batchDelete failures =>
    if !failures.isEmpty && failures.all fun failure => failure.2.isThrottled then .throttled
    else .fatal

/-- A failure that a later try may not meet. -/
def worthRetry (problem : StorageProblem) : Bool :=
  problem.kind == .throttled

/-- The instant that a failure gives for the next try; of a batch, the latest of its failures. -/
def resumeAt? : StorageProblem → Option Instant
  | .throttled resumeAt _ => some resumeAt
  | .batchDelete failures => latest? (failures.filterMap fun failure => failure.2.throttledUntil?)
  | _ => none

def text : StorageProblem → Text
  | .unspecified message => message
  | .invalidLocation problem => problem.text
  | .throttled resumeAt message => message ++ " (resume at " ++ resumeAt.isoText ++ ")"
  | .nonRetryable message _ => message
  | .probe message => message
  | .batchDelete failures =>
    "Failed to delete objects in " ++ natText failures.length ++ " bucket(s): " ++
      Text.intercalate ", " (sorted (failures.map (·.1)))

end StorageProblem

def Fault.text : Fault → Text
  | .storage problem _ => problem.text
  | .service _ text => text
  | .transport problem => problem.text
  | .mishap m => m.text

/-- The failure for a location that is not one. -/
def Fault.ofLocation (problem : LocationProblem) : Fault :=
  .storage (.invalidLocation problem) .nothing

/-- The mishap for a number of seconds that is no duration. -/
def Fault.ofDuration : DurationProblem → Fault
  | .notANumber => .mishap .nanToInteger
  | .infinite => .mishap .infinityToInteger
  | .tooLong days => .mishap (.tooLarge (Duration.tooLongText days))

end ObjectStorage
