import ObjectStorage.Journal
import ObjectStorage.Log.Line
import ObjectStorage.Text.Lines

/-!
# Setting up the log

Which records the log shows once its level is set, and in which form. The logger that tells of the
start, and those below it, write plain lines from the level of information on; all others write
lines for machines from the level of the log on.
-/

namespace ObjectStorage.Log

open Text

/-- The names that the level of the log may be given by. -/
def settableLevels : List (Text × Int) :=
  [("CRITICAL", 50), ("FATAL", 50), ("ERROR", 40), ("WARN", 30), ("WARNING", 30), ("INFO", 20),
   ("DEBUG", 10), ("NOTSET", 0)]

def unsetLevel : Int := 30

/-- The numbers in the configuration of the log, by their names. -/
def configured : List (Text × Datum) :=
  [("version", .int 1), ("disable_existing_loggers", .bool false)]

/-- The numbers of the logging library, by their names. -/
def constants : List (Text × Datum) :=
  ("raiseExceptions", .bool true) :: settableLevels.map fun level => (level.1, .int level.2)

/-- What a text refers to: a number in the configuration, or one of the logging library. A reference
is one line, which a line feed may end. -/
def referent? (reference : Text) : Option Datum :=
  let row := dropFinal (.char '\n') reference.points
  let behind := fun (front : Text) => row.drop front.length
  if row.contains (.char '\n') then none
  else if reference.beginsWith "cfg://" then configured.lookup (strip ⟨behind "cfg://"⟩)
  else if reference.beginsWith "ext://logging." then constants.lookup ⟨behind "ext://logging."⟩
  else none

/-- The level that the log is set to, by a number, a name or a reference. A truth value counts as a
number. -/
def levelOf : Datum → Except Fault Datum
  | .int level => .ok (.int level)
  | .bool level => .ok (.bool level)
  | .null => .ok (.int unsetLevel)
  | .text name =>
    match settableLevels.lookup name, referent? name with
    | some level, _ => .ok (.int level)
    | none, some level => .ok level
    | none, none => .error (.mishap .unknownRootLevel)
  | _ => .error (.mishap .unknownRootLevel)

/-- The level of a record must be a whole number. -/
def checkLevel (entry : Entry) : Except Fault Unit :=
  match entry.level with
  | .int _ => .ok ()
  | .bool _ => .ok ()
  | _ => .error (.mishap (.wrongType "level must be an integer"))

/-- The least level that the logger of the start and those below it show. -/
def startLevel : Int := 20

/-- The logger is the one of the start or below it. -/
def isStartLogger (logger : Text) : Bool :=
  logger == startLogger || logger.beginsWith (startLogger ++ ".")

/-- Where a level stands among the whole ones. -/
def rank (level : Datum) : Int :=
  match level.toInteger with
  | .ok level => level
  | .error _ => 0

/-- The log shows records of a level by a logger. -/
def shows (level : Datum) (entry : Entry) : Bool :=
  let least := if isStartLogger entry.logger then startLevel else rank level
  0 < rank entry.level && least ≤ rank entry.level

def line (entry : Entry) : Except Fault Text :=
  if isStartLogger entry.logger then plainLine entry else jsonLine entry none

def linesOf (level : Datum) (entries : List Entry) : Except Fault (List Text) := do
  entries.forM checkLevel
  let texts ← (entries.filter (shows level)).mapM line
  return lines (Text.join (texts.map (· ++ "\n")))

end ObjectStorage.Log
