import ObjectStorage.Datum.Text

/-!
# Writing JSON

The JSON text of a datum on one line, code points beyond ASCII as they are. What JSON has no form
for is written as its plain text.
-/

namespace ObjectStorage.Json

open Text Number

def escaped (c : Char) : List Char :=
  if c == '"' then ['\\', '"']
  else if c == '\\' then ['\\', '\\']
  else if c == '\n' then ['\\', 'n']
  else if c == '\r' then ['\\', 'r']
  else if c == '\t' then ['\\', 't']
  else if c == '\x0c' then ['\\', 'f']
  else if c == '\x08' then ['\\', 'b']
  else if c.toNat < 32 then '\\' :: 'u' :: paddedHex 4 c.toNat
  else [c]

def escapedPoint : CodePoint → List CodePoint
  | .char c => (escaped c).map .char
  | .half offset => [.half offset]

def string (text : Text) : Text :=
  ⟨.char '"' :: text.points.flatMap escapedPoint ++ [.char '"']⟩

/-- A floating-point number, with names for NaN and the infinities. -/
def real : Binary64 → Text
  | .nan _ => "NaN"
  | .infinity negative => if negative then "-Infinity" else "Infinity"
  | number => number.text

mutual

def write : Datum → Text
  | .null => "null"
  | .bool value => if value then "true" else "false"
  | .int value => intText value
  | .real value => real value
  | .text value => string value
  | .kind value => string value.name
  | .list items => "[" ++ Text.intercalate ", " (writeItems items) ++ "]"
  | .table entries => "\x7b" ++ Text.intercalate ", " (writeEntries entries) ++ "\x7d"
  | other => string other.plain

def writeItems : List Datum → List Text
  | [] => []
  | item :: rest => write item :: writeItems rest

def writeEntries : List (Text × Datum) → List Text
  | [] => []
  | (key, value) :: rest => (string key ++ ": " ++ write value) :: writeEntries rest

end

end ObjectStorage.Json
