import ObjectStorage.Datum.Basic
import ObjectStorage.Number.Reading
import ObjectStorage.Text.Surrogate

/-!
# Reading JSON

Reads a JSON text into a datum. Beyond the standard, the three names for NaN and the infinities are
values. Of two entries of an object with one name the later value counts, in the earlier place. A
text that is not JSON, or goes beyond the limits of the reader, gives the first defect with its
place, counted in code points.
-/

namespace ObjectStorage.Json

open Number Text

/-- Why a text is not JSON. -/
inductive Problem
  | expectingValue
  | expectingName
  | expectingColon
  | expectingComma
  | unterminatedString
  | controlCharacter
  | badEscape
  | badCodeUnit
  | extraData
  | byteOrderMark
  /-- A whole number has too many digits. -/
  | manyDigits (count : Nat)
  /-- Lists and objects stand in one another too deeply. -/
  | deepList
  | deepObject
  deriving DecidableEq, Repr

def Problem.text : Problem → Text
  | .expectingValue => "Expecting value"
  | .expectingName => "Expecting property name enclosed in double quotes"
  | .expectingColon => "Expecting ':' delimiter"
  | .expectingComma => "Expecting ',' delimiter"
  | .unterminatedString => "Unterminated string starting at"
  | .controlCharacter => "Invalid control character at"
  | .badEscape => "Invalid \\escape"
  | .badCodeUnit => "Invalid \\uXXXX escape"
  | .extraData => "Extra data"
  | .byteOrderMark => "Unexpected UTF-8 BOM (decode using utf-8-sig)"
  | .manyDigits count => manyDigitsText count
  | .deepList =>
    "maximum recursion depth exceeded while decoding a JSON array from a unicode string"
  | .deepObject =>
    "maximum recursion depth exceeded while decoding a JSON object from a unicode string"

/-- A defect of a text and its place: the position from zero, line and column from one. -/
structure Defect where
  problem : Problem
  position : Nat
  line : Nat
  column : Nat
  deriving DecidableEq, Repr

def Defect.text (defect : Defect) : Text :=
  defect.problem.text ++ ": line " ++ natText defect.line ++ " column " ++ natText defect.column ++
    " (char " ++ natText defect.position ++ ")"

/-- A problem met with a number of code points left to read. -/
structure Stop where
  problem : Problem
  left : Nat

/-- What is still to be read. -/
abbrev Row := List CodePoint

/-- The defect of a text at which reading stopped. -/
def Stop.inText (stop : Stop) (text : Row) : Defect :=
  let position := text.length - stop.left
  let before := text.take position
  { problem := stop.problem
    position
    line := before.count (.char '\n') + 1
    column := (before.reverse.takeWhile (· != .char '\n')).length + 1 }

def isSpace (c : Char) : Bool :=
  c == ' ' || c == '\t' || c == '\n' || c == '\r'

def skipSpace (text : Row) : Row :=
  text.dropWhile (·.isIn isSpace)

def hexValueAt? : CodePoint → Option Nat
  | .char c => hexValue? c
  | .half _ => none

/-- The code unit that four hexadecimal digits stand for. -/
def codeUnit? (a b c d : CodePoint) : Option Nat := do
  return (((← hexValueAt? a) * 16 + (← hexValueAt? b)) * 16 + (← hexValueAt? c)) * 16 +
    (← hexValueAt? d)

/-- The character that stands behind a backslash for another one. -/
def plainEscape? (point : CodePoint) : Option Char :=
  match point with
  | .char '"' => some '"'
  | .char '\\' => some '\\'
  | .char '/' => some '/'
  | .char 'b' => some '\x08'
  | .char 'f' => some '\x0c'
  | .char 'n' => some '\n'
  | .char 'r' => some '\r'
  | .char 't' => some '\t'
  | _ => none

/-- A code point put before what has been read. -/
def before (point : CodePoint) (read : Except Stop (Row × Row)) : Except Stop (Row × Row) :=
  read.map fun parts => (point :: parts.1, parts.2)

/-- Reads a code unit behind the letter u, with the next one when the two are a pair. Gives its code
point and how many were read. A string must go on behind each. -/
def readUnit (text : Row) : Except Stop (CodePoint × Nat) :=
  match text with
  | a :: b :: c :: d :: next :: rest =>
    match codeUnit? a b c d with
    | none => .error ⟨.badCodeUnit, text.length + 1⟩
    | some unit =>
      if !isHighHalf unit then .ok (.ofValue unit, 4)
      else match next :: rest with
        | .char '\\' :: .char 'u' :: a :: b :: c :: d :: end_ :: beyond =>
          match codeUnit? a b c d with
          | none => .error ⟨.badCodeUnit, (end_ :: beyond).length + 5⟩
          | some low =>
            if isLowHalf low then .ok (.char (pairChar unit low), 10) else .ok (.ofValue unit, 4)
        | _ => .ok (.ofValue unit, 4)
  | _ => .error ⟨.badCodeUnit, text.length + 1⟩

/-- Reads a string up to its closing quote. The text `start` begins with the opening quote, and
`skip` code points at the head belong to an escape already read. -/
def readString (start : Row) (skip : Nat) : Row → Except Stop (Row × Row)
  | [] => .error ⟨.unterminatedString, start.length⟩
  | point :: rest =>
    if 0 < skip then readString start (skip - 1) rest
    else if point == '"' then .ok ([], rest)
    else if point == '\\' then
      match rest with
      | [] => .error ⟨.unterminatedString, start.length⟩
      | .char 'u' :: digits =>
        match readUnit digits with
        | .error stop => .error stop
        | .ok (read, size) => before read (readString start (size + 1) rest)
      | escape :: _ =>
        match plainEscape? escape with
        | none => .error ⟨.badEscape, (point :: rest).length⟩
        | some c => before c (readString start 1 rest)
    else if point.value < 32 then .error ⟨.controlCharacter, (point :: rest).length⟩
    else before point (readString start 0 rest)

/-- The ASCII digits at the head of a text, and what follows them. -/
def cutDigits : Row → List Char × Row
  | .char c :: rest =>
    if c.isDigit then
      let (digits, rest) := cutDigits rest
      (c :: digits, rest)
    else ([], .char c :: rest)
  | text => ([], text)

/-- The places behind the point at the head of a text: none without a digit. -/
def cutPlaces (text : Row) : List Char × Row :=
  match text with
  | .char '.' :: rest =>
    let (places, rest) := cutDigits rest
    if places.isEmpty then ([], text) else (places, rest)
  | _ => ([], text)

/-- The sign at the head of a text, and what follows it. -/
def cutSignAt : Row → Bool × Row
  | .char '-' :: rest => (true, rest)
  | .char '+' :: rest => (false, rest)
  | text => (false, text)

/-- The power of ten at the head of a text, if there is one with a digit. -/
def cutPower (text : Row) : Option Int × Row :=
  match text with
  | point :: rest =>
    if point == 'e' || point == 'E' then
      let (negative, rest) := cutSignAt rest
      let (digits, rest) := cutDigits rest
      if digits.isEmpty then (none, text)
      else (some (Binary64.signed negative (rowValue digits)), rest)
    else (none, text)
  | [] => (none, [])

/-- The whole digits at the head of a text: a zero stands alone. -/
def cutWhole : Row → List Char × Row
  | .char '0' :: rest => (['0'], rest)
  | text => cutDigits text

/-- Reads a number, the sign having been read. Without digits there is none. -/
def readNumber? (negative : Bool) (text : Row) : Option (Except Stop (Datum × Row)) :=
  let (whole, rest) := cutWhole text
  if whole.isEmpty then none
  else
    let (places, rest) := cutPlaces rest
    let (power, rest) := cutPower rest
    if !places.isEmpty || power.isSome then
      some (.ok (.real (ofDigits negative (whole ++ places) (power.getD 0 - places.length)), rest))
    else if maxReadDigits < whole.length then
      some (.error ⟨.manyDigits whole.length, text.length⟩)
    else some (.ok (.int (Binary64.signed negative (rowValue whole)), rest))

def words : List (Text × Datum) :=
  [("null", .null), ("true", .bool true), ("false", .bool false), ("NaN", .real (.nan 0)),
   ("Infinity", .real (.infinity false)), ("-Infinity", .real (.infinity true))]

/-- Reads a value that is neither a string nor has parts. -/
def readSimple (text : Row) : Except Stop (Datum × Row) :=
  match words.find? fun word => word.1.points.isPrefixOf text with
  | some (word, value) => .ok (value, text.drop word.length)
  | none =>
    let number := match text with
      | .char '-' :: rest => readNumber? true rest
      | _ => readNumber? false text
    number.getD (.error ⟨.expectingValue, text.length⟩)

/-- How many lists and objects may stand in one another. -/
def maxDepth : Nat := 990

mutual

/-- Reads a value that may have `depth` levels of parts. Each call takes one from the fuel. -/
def readValue (fuel depth : Nat) (text : Row) : Except Stop (Datum × Row) :=
  match fuel, text with
  | 0, _ => .error ⟨.expectingValue, text.length⟩
  | _ + 1, .char '"' :: rest => do
    let (read, rest) ← readString text 0 rest
    return (.text ⟨read⟩, rest)
  | fuel + 1, .char '[' :: rest =>
    if depth = 0 then .error ⟨.deepList, text.length⟩
    else match skipSpace rest with
      | .char ']' :: rest => .ok (.list [], rest)
      | rest => readItems fuel (depth - 1) [] rest
  | fuel + 1, .char '\x7b' :: rest =>
    if depth = 0 then .error ⟨.deepObject, text.length⟩
    else match skipSpace rest with
      | .char '\x7d' :: rest => .ok (.table [], rest)
      | rest => readEntries fuel (depth - 1) [] rest
  | _ + 1, _ => readSimple text

/-- Reads the items of a list behind those already read, the last of which comes first. -/
def readItems (fuel depth : Nat) (items : List Datum) (text : Row) :
    Except Stop (Datum × Row) :=
  match fuel with
  | 0 => .error ⟨.expectingValue, text.length⟩
  | fuel + 1 => do
    let (item, rest) ← readValue fuel depth text
    match skipSpace rest with
    | .char ']' :: rest => return (.list (item :: items).reverse, rest)
    | .char ',' :: rest => readItems fuel depth (item :: items) (skipSpace rest)
    | rest => .error ⟨.expectingComma, rest.length⟩

/-- Reads the entries of an object behind those already read. -/
def readEntries (fuel depth : Nat) (entries : List (Text × Datum)) (text : Row) :
    Except Stop (Datum × Row) :=
  match fuel, text with
  | fuel + 1, .char '"' :: rest => do
    let (name, rest) ← readString text 0 rest
    match skipSpace rest with
    | .char ':' :: rest =>
      let (value, rest) ← readValue fuel depth (skipSpace rest)
      let entries := putEntry entries ⟨name⟩ value
      match skipSpace rest with
      | .char '\x7d' :: rest => return (.table entries, rest)
      | .char ',' :: rest => readEntries fuel depth entries (skipSpace rest)
      | rest => .error ⟨.expectingComma, rest.length⟩
    | rest => .error ⟨.expectingColon, rest.length⟩
  | _, _ => .error ⟨.expectingName, text.length⟩

end

/-- Reads a whole text as one value, which blanks may surround. Every call of the reader but the
first of a value takes a code point, so twice the length is fuel enough. -/
def readText (text : Row) : Except Stop Datum :=
  match text with
  | .char '\uFEFF' :: _ => .error ⟨.byteOrderMark, text.length⟩
  | _ => do
    let (value, rest) ← readValue (2 * text.length + 1) maxDepth (skipSpace text)
    match skipSpace rest with
    | [] => return value
    | rest => .error ⟨.extraData, rest.length⟩

def read (text : Text) : Except Defect Datum :=
  (readText text.points).mapError (·.inText text.points)

end ObjectStorage.Json
