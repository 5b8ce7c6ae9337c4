import ObjectStorage.Datum.Reading
import ObjectStorage.Scene

/-!
# Throttling

How a fault of a request becomes a failure of the store. A service asks to slow down by one of
fourteen error codes or by the status 429; the failure then says when to try again. Any other fault
is not worth a retry. Nothing is decided by the text of a fault.
-/

namespace ObjectStorage

open Number Text Time

/-- The error codes by which services ask to slow down. -/
def throttlingCodes : List Text :=
  ["Throttling", "ThrottlingException", "ThrottledException", "RequestThrottledException",
   "TooManyRequestsException", "ProvisionedThroughputExceededException",
   "TransactionInProgressException", "RequestLimitExceeded", "BandwidthLimitExceeded",
   "LimitExceededException", "RequestThrottled", "SlowDown", "PriorRequestNotComplete",
   "EC2ThrottledException"]

/-- The status by which services ask to slow down. -/
def throttlingStatus : Int := 429

/-- How long to wait when neither the service nor the options say. -/
def fallbackDelay : Duration := ⟨10 * microsPerSecond⟩

namespace Fault

/-- A part of a response, an empty table where the response does not have it. -/
def responsePart (whole : Datum) (name : Text) : Except Fault Datum := do
  return (← (whole.orElse (.table [])).get name).orElse (.table [])

/-- The error code that a service reports, empty where there is none. -/
def reportedCode : Fault → Except Fault Text
  | .service response _ => do
    let code ← (← responsePart response "Error").get "Code"
    return (code.orElse (.text "")).plain
  | _ => .ok ""

def reportedStatus : Fault → Except Fault (Option Int)
  | .service response _ => do
    match ← (← responsePart response "ResponseMetadata").get "HTTPStatusCode" with
    | .null => return none
    | status => return some (← status.toInteger)
  | _ => .ok none

def asksToSlowDown (fault : Fault) : Except Fault Bool := do
  if throttlingCodes.contains (← fault.reportedCode) then return true
  return (← fault.reportedStatus) == some throttlingStatus

/-- The delay that a header asks for. A header that is no number or not positive asks for none. -/
def delayOfHeader (header : Datum) : Except Fault (Option Duration) :=
  match header with
  | .null => .ok none
  | _ =>
    match readBinary64? (strip header.plain) with
    | none => .ok none
    | some seconds =>
      if seconds.nonpositive then .ok none
      else ((Duration.ofReal? seconds).map some).mapError Fault.ofDuration

def serviceDelay : Fault → Except Fault (Option Duration)
  | .service response _ => do
    let headers ← responsePart (← responsePart response "ResponseMetadata") "HTTPHeaders"
    delayOfHeader ((← headers.get "retry-after").orElse (← headers.get "Retry-After"))
  | _ => .ok none

end Fault

/-- The first delay of some that is not zero. -/
def firstDelay : List (Option Duration) → Duration
  | [] => fallbackDelay
  | some delay :: rest => if delay.isZero then firstDelay rest else delay
  | none :: rest => firstDelay rest

/-- What the failures of a request are made with: the time, the delay of the options, and the words
in front. -/
structure FailureContext where
  now : Instant
  delay : Option Duration
  message : Text

/-- The verdict on a fault: a failure of the store, and the record that tells of it. -/
structure Verdict where
  problem : StorageProblem
  record : Record

/-- An error code in a record: a dash stands where there is none. -/
def shownCode (code : Text) : Text :=
  if code.isEmpty then "-" else code

namespace Verdict

/-- The text of a whole number that may be missing. -/
def statusText : Option Int → Text
  | some status => intText status
  | none => "None"

/-- A whole number that may be missing, as a datum. -/
def statusDatum : Option Int → Datum
  | some status => .int status
  | none => .null

/-- The failure of a fault that asks to slow down. -/
def throttled (context : FailureContext) (fault : Fault) : Except Fault Verdict := do
  let delay := firstDelay [← fault.serviceDelay, context.delay]
  let resumeAt ← match context.now.add? delay with
    | some instant => pure instant
    | none => throw (.mishap .outOfRange)
  let code ← fault.reportedCode
  let status ← fault.reportedStatus
  let shown := if code.isEmpty then statusText status else code
  return {
    problem := .throttled resumeAt (context.message ++ ": throttled")
    record := {
      severity := .warning
      logger := storeLogger
      message := "object_store_throttled code=" ++ shown ++ " resume_at=" ++ resumeAt.isoText
      details := .table [("error_code", .text code), ("status", statusDatum status),
        ("retry_after_seconds", .real delay.seconds)] } }

/-- The fault is that of a request that got no answer. -/
def isTransport : Fault → Bool
  | .transport _ => true
  | _ => false

/-- The failure of a fault that does not ask to slow down. -/
def nonRetryable (context : FailureContext) (fault : Fault) : Except Fault Verdict := do
  let code ← fault.reportedCode
  let status ← fault.reportedStatus
  let transport := isTransport fault
  return {
    problem := .nonRetryable (context.message ++ ": " ++ fault.text) transport
    record := {
      severity := .warning
      logger := storeLogger
      message := "object_store_failed code=" ++ shownCode code ++
        " transport=" ++ Datum.boolText transport ++ " error=" ++ fault.text
      details := .table [("error_code", .text code), ("status", statusDatum status),
        ("transport", .bool transport)] } }

/-- The failure of a fault that is not one of the store already. -/
def ofFault (context : FailureContext) (fault : Fault) : Except Fault Verdict := do
  if ← fault.asksToSlowDown then throttled context fault else nonRetryable context fault

end Verdict

/-- Makes a failure of the store of a fault and writes the record. A failure of the store stays as
it is. -/
def judge {σ : Type} (context : FailureContext) (fault : Fault) : Act (Scene σ) Fault := do
  match fault with
  | .storage .. => return fault
  | _ =>
    let verdict ← Act.ofExcept (Verdict.ofFault context fault)
    Scene.note (.record verdict.record)
    return .storage verdict.problem (.fault fault)

/-- Fails with the failure that a fault is judged to be, raised from the fault. A failure of the
store, which stays as it is, is raised from itself then. -/
def failJudged {σ α : Type} (context : FailureContext) (fault : Fault) :
    Act (Scene σ) α := do
  match ← judge context fault with
  | .storage problem cause =>
    Act.fail (.storage problem (if fault.isStorage then .itself else cause))
  | other => Act.fail other

end ObjectStorage
