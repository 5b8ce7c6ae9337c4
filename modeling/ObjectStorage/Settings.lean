import ObjectStorage.Client.Options
import ObjectStorage.Text.Lines

/-!
# Settings

The settings of the service. They are checked when they are made: the delay for retries must be
positive, the options of each bucket must be a table, and the level of the log must be known
(`Settings.make`). Accepted settings give the options of the store (`Settings.storeOptions`).
-/

namespace ObjectStorage

open Number Text Time

/-- Settings as they are given, nothing of them checked. -/
structure SettingsDraft where
  endpointUrl : Datum
  region : Datum
  accessKeyId : Datum
  secretAccessKey : Datum
  sessionToken : Datum
  pathStyle : Datum
  retryAfter : Datum
  bucketOptions : Datum
  readyLocations : Datum
  enableMetrics : Datum
  logLevel : Datum

/-- Settings that were accepted. -/
structure Settings where
  endpointUrl : Datum
  region : Datum
  accessKeyId : Datum
  secretAccessKey : Datum
  sessionToken : Datum
  pathStyle : Datum
  retryAfter : Datum
  bucketOptions : List (Text × List (Text × Datum))
  readyLocations : Datum
  enableMetrics : Datum
  logLevel : Text

namespace SettingsDraft

def standard : SettingsDraft where
  endpointUrl := .null
  region := .null
  accessKeyId := .null
  secretAccessKey := .null
  sessionToken := .null
  pathStyle := .bool false
  retryAfter := .null
  bucketOptions := .table []
  readyLocations := .list []
  enableMetrics := .bool true
  logLevel := .text "INFO"

def set (draft : SettingsDraft) (name : Text) (value : Datum) : Option SettingsDraft :=
  if name = "S3_ENDPOINT_URL" then some { draft with endpointUrl := value }
  else if name = "S3_REGION" then some { draft with region := value }
  else if name = "S3_ACCESS_KEY_ID" then some { draft with accessKeyId := value }
  else if name = "S3_SECRET_ACCESS_KEY" then some { draft with secretAccessKey := value }
  else if name = "S3_SESSION_TOKEN" then some { draft with sessionToken := value }
  else if name = "S3_PATH_STYLE_ACCESS" then some { draft with pathStyle := value }
  else if name = "S3_RETRY_AFTER_SECONDS" then some { draft with retryAfter := value }
  else if name = "S3_BUCKET_OPTIONS" then some { draft with bucketOptions := value }
  else if name = "READY_LOCATIONS" then some { draft with readyLocations := value }
  else if name = "ENABLE_METRICS" then some { draft with enableMetrics := value }
  else if name = "LOG_LEVEL" then some { draft with logLevel := value }
  else none

/-- The standard settings with some of them set by name. -/
def ofEntries (entries : List (Text × Datum)) : Except Fault SettingsDraft :=
  entries.foldlM (fun draft entry =>
    match draft.set entry.1 entry.2 with
    | some draft => .ok draft
    | none => .error (.mishap (.wrongType "unknown setting"))) standard

/-- The delay for retries must be a positive number, if it is given. NaN passes. -/
def checkRetry : Datum → Except Fault Unit
  | .null => .ok ()
  | value =>
    let nonpositive? : Option Bool := match value with
      | .bool b => some !b
      | .int n => some (n ≤ 0)
      | .real x => some x.nonpositive
      | _ => none
    match nonpositive? with
    | none => .error (.mishap (.wrongType "not a number"))
    | some true => .error (.mishap (.setting .retryNotPositive))
    | some false => .ok ()

/-- The options of one bucket must be a table. -/
def checkBucket (entry : Text × Datum) : Except Fault (Text × List (Text × Datum)) :=
  match entry.2 with
  | .table options => .ok (entry.1, options)
  | _ => .error (.mishap (.setting (.bucketNotTable entry.1)))

/-- The options of all buckets must be a table of tables. -/
def checkBuckets : Datum → Except Fault (List (Text × List (Text × Datum)))
  | .table entries => entries.mapM checkBucket
  | _ => .error (.mishap (.noMethod "object" "items"))

/-- The level of the log must be one of the known ones, in any letter case. -/
def checkLevel : Datum → Except Fault Text
  | .text value =>
    let level := upperForLevel value
    if levelNames.contains level then .ok level else .error (.mishap (.setting .unknownLevel))
  | .kind _ => .error (.mishap (.setting .unknownLevel))
  | .bytes _ => .error (.mishap (.setting .unknownLevel))
  | _ => .error (.mishap (.noMethod "object" "upper"))

end SettingsDraft

namespace Settings

/-- Accepts settings, or says what is wrong with them. -/
def make (draft : SettingsDraft) : Except Fault Settings := do
  SettingsDraft.checkRetry draft.retryAfter
  let bucketOptions ← SettingsDraft.checkBuckets draft.bucketOptions
  let logLevel ← SettingsDraft.checkLevel draft.logLevel
  return {
    endpointUrl := draft.endpointUrl
    region := draft.region
    accessKeyId := draft.accessKeyId
    secretAccessKey := draft.secretAccessKey
    sessionToken := draft.sessionToken
    pathStyle := draft.pathStyle
    retryAfter := draft.retryAfter
    bucketOptions
    readyLocations := draft.readyLocations
    enableMetrics := draft.enableMetrics
    logLevel }

def ofEntries (entries : List (Text × Datum)) : Except Fault Settings := do
  make (← SettingsDraft.ofEntries entries)

def toDatum (settings : Settings) : Datum :=
  .table [
    ("S3_ENDPOINT_URL", settings.endpointUrl),
    ("S3_REGION", settings.region),
    ("S3_ACCESS_KEY_ID", settings.accessKeyId),
    ("S3_SECRET_ACCESS_KEY", settings.secretAccessKey),
    ("S3_SESSION_TOKEN", settings.sessionToken),
    ("S3_PATH_STYLE_ACCESS", settings.pathStyle),
    ("S3_RETRY_AFTER_SECONDS", settings.retryAfter),
    ("S3_BUCKET_OPTIONS", .table (settings.bucketOptions.map fun entry =>
      (entry.1, .table entry.2))),
    ("READY_LOCATIONS", settings.readyLocations),
    ("ENABLE_METRICS", settings.enableMetrics),
    ("LOG_LEVEL", .text settings.logLevel)]

/-- The delay that settings give, if it counts as given. -/
def retryDelay (settings : Settings) : Except Fault (Option Duration) :=
  if settings.retryAfter.truthy then
    match settings.retryAfter.duration? with
    | some duration => (duration.map some).mapError Fault.ofDuration
    | none => .error (.mishap (.wrongType "not a number"))
  else .ok none

/-- The options of the store that settings give. -/
def storeOptions (settings : Settings) : Except Fault StoreOptions := do
  let buckets ← settings.bucketOptions.mapM fun entry => do
    return (entry.1, ← ClientOptions.ofDatum (.table entry.2))
  return {
    defaults := {
      endpointUrl := settings.endpointUrl
      region := settings.region
      accessKeyId := settings.accessKeyId
      secretAccessKey := settings.secretAccessKey
      sessionToken := settings.sessionToken
      pathStyle := settings.pathStyle }
    buckets
    retryAfter := ← settings.retryDelay }

def affirmatives : List Text :=
  ["1", "true", "t", "yes", "y", "on"]

/-- Reads a flag from a text; without a text the default stands. -/
def readFlag (value default : Datum) : Except Fault Datum :=
  match value with
  | .null => .ok default
  | .text text => .ok (.bool (affirmatives.contains (lower text)))
  | _ => .error (.mishap (.noMethod "object" "lower"))

/-- The parts of a text between commas, without blanks around them and without the empty ones. -/
def commaParts (text : Text) : List Text :=
  ((splitAtEach (.char ',') text.points).map fun part => strip ⟨part⟩).filter (!·.isEmpty)

/-- Reads a list from a text with commas. -/
def readList (value : Datum) : Except Fault Datum :=
  if !value.truthy then .ok (.list [])
  else match value with
    | .text text => .ok (.list ((commaParts text).map .text))
    | _ => .error (.mishap (.noMethod "object" "split"))

/-- Reads a number of seconds from a text; a blank text is none. -/
def readSeconds (value : Datum) : Except Fault Datum :=
  match value with
  | .null => .ok .null
  | .text text =>
    if (strip text).isEmpty then .ok .null
    else match readBinary64? text with
      | some seconds => .ok (.real seconds)
      | none => .error (.mishap (.notReal (quoted text)))
  | _ => .error (.mishap (.noMethod "object" "strip"))

/-- The mishap of a text that was to be a table. The limits of the reader speak for themselves. -/
def tableMishap (name : Text) (defect : Json.Defect) : Mishap :=
  match defect.problem with
  | .manyDigits count => .manyDigits count
  | .deepList => .tooDeep defect.problem.text
  | .deepObject => .tooDeep defect.problem.text
  | _ => .setting (.notJson name defect)

/-- Reads a table from a JSON text; a blank text is an empty one. -/
def readTable (name : Text) (value : Datum) : Except Fault Datum :=
  if !value.truthy then .ok (.table [])
  else match value with
    | .text text =>
      if (strip text).isEmpty then .ok (.table [])
      else match Json.read text with
        | .error defect => .error (.mishap (tableMishap name defect))
        | .ok (.table entries) => .ok (.table entries)
        | .ok _ => .error (.mishap (.setting (.notTable name)))
    | _ => .error (.mishap (.noMethod "object" "strip"))

end Settings

end ObjectStorage
