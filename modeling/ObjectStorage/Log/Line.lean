import ObjectStorage.Datum.Alike
import ObjectStorage.Json.Writer
import ObjectStorage.Log.Template

/-!
# Lines of the log

The two forms that a record takes in the log: a line for machines, which is a JSON object with the
details put over its standard entries, and a plain line.
-/

namespace ObjectStorage.Log

open Text

/-- A record as it is given to the log. Its level is a number. -/
structure Entry where
  logger : Text
  level : Datum
  template : Text
  arguments : List Datum
  details : Datum

def namedLevels : List (Int × Text) :=
  [(50, "CRITICAL"), (40, "ERROR"), (30, "WARNING"), (20, "INFO"), (10, "DEBUG"), (0, "NOTSET")]

/-- The name of a level, which may be any number. -/
def levelName (level : Datum) : Text :=
  match namedLevels.find? fun named => level.alike (.int named.1) with
  | some named => named.2
  | none => "Level " ++ level.plain

/-- What an error is called, with its text behind unless that is empty. -/
def errorLine (label text : Text) : Text :=
  if text.isEmpty then label else label ++ ": " ++ text

/-- Puts entries over others, each in its old place or at the end. -/
def putAll (entries details : List (Text × Datum)) : List (Text × Datum) :=
  details.foldl (fun entries detail => putEntry entries detail.1 detail.2) entries

/-- The entries of the line for machines. An error comes over the details. -/
def payload (entry : Entry) (error : Option Text) (message : Text) :
    List (Text × Datum) :=
  let standard : List (Text × Datum) := [("level", Datum.text (levelName entry.level)),
    ("logger", .text entry.logger), ("message", .text message)]
  let detailed := match entry.details with
    | .table details => putAll standard details
    | _ => standard
  match error with
  | some line => putEntry detailed "exception" (.text line)
  | none => detailed

def jsonLine (entry : Entry) (error : Option Text) : Except Fault Text := do
  let message ← message entry.template entry.arguments
  return Json.write (.table (payload entry error message))

def plainLine (entry : Entry) : Except Fault Text := do
  let message ← message entry.template entry.arguments
  return levelName entry.level ++ " " ++ entry.logger ++ ": " ++ message

end ObjectStorage.Log
