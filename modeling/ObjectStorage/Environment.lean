import ObjectStorage.Act
import ObjectStorage.Settings
import ObjectStorage.Text.Utf8

/-!
# Environment

The variables of the environment, the file that fills the gaps among them, and the settings that
they give. A line of the file sets a variable only if nothing has set it before, be it the
environment or an earlier line.
-/

namespace ObjectStorage

open Text

/-- The variables of an environment and their values, each variable once. -/
abbrev Environment := List (Text × Text)

namespace Environment

/-- The line is neither blank nor a comment and has an equals sign: then it has a name and a value,
each without the blanks around it, the value also without the quotes around it. -/
def entryOfLine? (line : Text) : Option (Text × Text) :=
  let row := (strip line).points
  if row.head? = some (.char '#') then none
  else
    match cutAt? (.char '=') row with
    | none => none
    | some (name, value) =>
      let name := strip ⟨name⟩
      let value := (strip ⟨value⟩).points
      let value := trimBoth (· == .char '\'') (trimBoth (· == .char '"') value)
      if name.isEmpty then none else some (name, ⟨value⟩)

/-- The entries of a file, in the order of its lines. -/
def entriesOf (text : Text) : List (Text × Text) :=
  (lines text).filterMap entryOfLine?

/-- What the environment makes of a text: its bytes are kept, and read again as UTF-8 where they can
be. A text of characters stays as it is. -/
def held (text : Text) : Except Fault Text :=
  if text.isWhole then .ok text
  else
    match Utf8.encodeKeeping text with
    | .ok bytes => .ok (Utf8.decodeKeeping bytes)
    | .error gap => .error (.mishap (.unencodable gap))

/-- A text that a variable cannot hold. -/
def hasNul (text : Text) : Bool :=
  text.points.contains (.char '\x00')

def namelessVariable : Fault :=
  .mishap (.foreign "OSError" "[Errno 22] Invalid argument")

/-- Sets a variable. Neither its name nor its value may hold the character NUL, and its name is not
empty and holds no equals sign. -/
def set (name value : Text) : Act Environment Unit := do
  let name ← Act.ofExcept (held name)
  let value ← Act.ofExcept (held value)
  if hasNul name || hasNul value then Act.fail (.mishap .embeddedNul)
  else if name.points.contains (.char '=') then Act.fail (.mishap .illegalName)
  else if name.isEmpty then Act.fail namelessVariable
  else Act.modify fun environment => putEntry environment name value

def setAll : List (Text × Text) → Act Environment Unit
  | [] => pure ()
  | (name, value) :: rest => do
    set name value
    setAll rest

def ofEntries (entries : List (Text × Text)) : Except Fault Environment :=
  match setAll entries [] with
  | (.ok _, environment) => .ok environment
  | (.error fault, _) => .error fault

/-- Takes a variable away. -/
def unset (name : Text) : Act Environment Unit := do
  let name ← Act.ofExcept (held name)
  Act.modify fun environment => environment.filter fun entry => entry.1 != name

/-- Sets a variable unless it is set. -/
def fill (entry : Text × Text) : Act Environment Unit := do
  let environment ← Act.get
  if (environment.lookup entry.1).isNone then set entry.1 entry.2

/-- Fills the gaps with one entry after the other. -/
def fillAll : List (Text × Text) → Act Environment Unit
  | [] => pure ()
  | entry :: rest => do
    fill entry
    fillAll rest

/-- Fills the gaps from a file, if there is one. -/
def load (file : Option (List UInt8)) : Act Environment Unit :=
  match file with
  | none => pure ()
  | some bytes =>
    match Utf8.decode bytes with
    | .error defect => Act.fail (.mishap (.undecodable defect))
    | .ok text => fillAll (entriesOf text)

def value (environment : Environment) (name : Text) : Datum :=
  match environment.lookup name with
  | some text => .text text
  | none => .null

/-- The value of a variable, or nothing if it is empty. -/
def given (environment : Environment) (name : Text) : Datum :=
  match environment.lookup name with
  | some text => if text.isEmpty then .null else .text text
  | none => .null

/-- The settings that the variables give, not yet checked. -/
def draft (environment : Environment) : Except Fault SettingsDraft := do
  return {
    endpointUrl := environment.given "S3_ENDPOINT_URL"
    region := environment.given "S3_REGION"
    accessKeyId := environment.given "S3_ACCESS_KEY_ID"
    secretAccessKey := environment.given "S3_SECRET_ACCESS_KEY"
    sessionToken := environment.given "S3_SESSION_TOKEN"
    pathStyle := ← Settings.readFlag (environment.value "S3_PATH_STYLE_ACCESS") (.bool false)
    retryAfter := ← Settings.readSeconds (environment.value "S3_RETRY_AFTER_SECONDS")
    bucketOptions := ← Settings.readTable "S3_BUCKET_OPTIONS"
      (environment.value "S3_BUCKET_OPTIONS")
    readyLocations := ← Settings.readList (environment.value "READY_LOCATIONS")
    enableMetrics := ← Settings.readFlag (environment.value "ENABLE_METRICS") (.bool true)
    logLevel := match environment.value "LOG_LEVEL" with
      | .null => .text "INFO"
      | level => level }

/-- The settings of an environment whose gaps a file may fill. -/
def settings (file : Option (List UInt8)) : Act Environment Settings := do
  load file
  let environment ← Act.get
  Act.ofExcept do Settings.make (← environment.draft)

end Environment

end ObjectStorage
