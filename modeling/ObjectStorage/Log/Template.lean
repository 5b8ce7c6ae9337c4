import ObjectStorage.Json.Reader
import ObjectStorage.Log.Conversion

/-!
# Message templates

The text of a record is a template whose conversions, each begun by a percent sign, are filled in
order with arguments, or by name from a table. Reading a template never fails (`readParts`): what is
wrong with a conversion comes to light when it is filled, behind all that comes before it. Without
arguments a template is its own text. All arguments of a row must be used.
-/

namespace ObjectStorage.Log

open Number Text

/-- The name in front of a conversion: none, one in parentheses, or one that is never closed. -/
inductive Name
  | absent
  | unclosed
  | given (name : Text)
  deriving DecidableEq, Repr

/-- A width or a precision: none, a number in the template, or an argument. -/
inductive Size
  | absent
  | given (value : Nat)
  | argument
  deriving DecidableEq, Repr

/-- A conversion as it stands in a template, with the place of its type there. An incomplete one has
no type. -/
structure Conversion where
  name : Name
  flags : Field
  width : Size
  precision : Size
  type? : Option CodePoint
  place : Nat
  deriving DecidableEq, Repr

/-- A part of a template. -/
inductive Part
  | point (point : CodePoint)
  | conversion (conversion : Conversion)
  deriving DecidableEq, Repr

def readFlags (field : Field) : List CodePoint → Field × List CodePoint
  | .char '-' :: rest => readFlags { field with left := true } rest
  | .char '0' :: rest => readFlags { field with zeros := true } rest
  | .char '+' :: rest => readFlags { field with plus := true } rest
  | .char ' ' :: rest => readFlags { field with blank := true } rest
  | .char '#' :: rest => readFlags { field with alternate := true } rest
  | rest => (field, rest)

def readSize : List CodePoint → Size × List CodePoint
  | .char '*' :: rest => (.argument, rest)
  | text =>
    let (digits, rest) := Json.cutDigits text
    (if digits.isEmpty then .absent else .given (rowValue digits), rest)

/-- Reads a precision, if a point begins it. A point alone means zero. -/
def readPrecision : List CodePoint → Size × List CodePoint
  | .char '.' :: rest =>
    match readSize rest with
    | (.absent, rest) => (.given 0, rest)
    | found => found
  | rest => (.absent, rest)

/-- The text up to the parenthesis that closes `depth` open ones, and what follows it. -/
def cutClosed? (depth : Nat) : List CodePoint → Option (List CodePoint × List CodePoint)
  | [] => none
  | point :: rest =>
    if point == ')' && depth == 1 then some ([], rest)
    else
      let depth := if point == '(' then depth + 1 else if point == ')' then depth - 1 else depth
      (cutClosed? depth rest).map fun parts => (point :: parts.1, parts.2)

/-- Reads a name in parentheses, which may have others in it, if there is one. -/
def readName : List CodePoint → Name × List CodePoint
  | .char '(' :: rest =>
    match cutClosed? 1 rest with
    | some (name, rest) => (.given ⟨name⟩, rest)
    | none => (.unclosed, [])
  | rest => (.absent, rest)

/-- Passes over a letter for the length of a number, which has no meaning. -/
def skipLength : List CodePoint → List CodePoint
  | .char 'l' :: rest => rest
  | .char 'h' :: rest => rest
  | .char 'L' :: rest => rest
  | rest => rest

/-- Reads a conversion behind its percent sign at a place of the template, with how many code
points it takes. -/
def readConversion (place : Nat) (text : List CodePoint) : Conversion × Nat :=
  let (name, rest) := readName text
  let (flags, rest) := readFlags .bare rest
  let (width, rest) := readSize rest
  let (precision, rest) := readPrecision rest
  let rest := skipLength rest
  let size := text.length - rest.length
  (⟨name, flags, width, precision, rest.head?, place + size⟩, size + 1)

/-- Reads a template from a place on, `skip` code points there being read already. Two percent signs
are one. -/
def readParts (place skip : Nat) : List CodePoint → List Part
  | [] => []
  | point :: rest =>
    match skip with
    | skip + 1 => readParts (place + 1) skip rest
    | 0 =>
      if point == '%' then
        if rest.head? = some (.char '%') then .point '%' :: readParts (place + 1) 1 rest
        else
          let (conversion, size) := readConversion (place + 1) rest
          .conversion conversion :: readParts (place + 1) size rest
      else .point point :: readParts (place + 1) 0 rest

/-- The arguments not used yet: the rest of a row, or a table with the value that it gave last. -/
inductive Supply
  | row (arguments : List Datum)
  | table (entries : List (Text × Datum)) (current : Option Datum)

namespace Supply

/-- The supply of some arguments. A single table that is not empty gives arguments by name; it is a
value of its own as long as none is asked for. -/
def ofArguments : List Datum → Supply
  | [.table (entry :: rest)] => .table (entry :: rest) (some (.table (entry :: rest)))
  | arguments => .row arguments

def next : Supply → Except Fault (Datum × Supply)
  | .row (argument :: rest) => .ok (argument, .row rest)
  | .table entries (some value) => .ok (value, .table entries none)
  | _ => .error (misfit "not enough arguments for format string")

/-- Turns to the value of a name, if there is one. -/
def turnTo (supply : Supply) : Name → Except Fault Supply
  | .absent => .ok supply
  | name =>
    match supply with
    | .row _ => .error (misfit "format requires a mapping")
    | .table entries _ =>
      match name with
      | .given name =>
        match entries.lookup name with
        | some value => .ok (.table entries (some value))
        | none => .error (.mishap (.noEntry name))
      | _ => .error (.mishap (.badFormat "incomplete format key"))

/-- A row must be used up. -/
def finish : Supply → Except Fault Unit
  | .row (_ :: _) => .error (misfit "not all arguments converted during string formatting")
  | _ => .ok ()

end Supply

/-- The whole number that an argument gives for a size, within a bound. -/
def sizeOf (bound : Nat) (argument : Datum) : Except Fault Int :=
  match argument with
  | .bool value => .ok value.toInt
  | .int value =>
    if bound < value ∨ value < -bound - 1 then .error (.mishap (.tooLarge "size too large"))
    else .ok value
  | _ => .error (misfit "* wants int")

def maxWidth : Nat := 9223372036854775807

def maxPrecision : Nat := 2147483647

namespace Conversion

/-- Sets the width of a field. A negative width from an argument stands for filling on the right. -/
def fillWidth (conversion : Conversion) (field : Field) (supply : Supply) :
    Except Fault (Field × Supply) :=
  match conversion.width with
  | .absent => .ok (field, supply)
  | .given width =>
    if maxWidth < width then .error (.mishap (.badFormat "width too big"))
    else .ok ({ field with width }, supply)
  | .argument => do
    let (argument, supply) ← supply.next
    let width ← sizeOf maxWidth argument
    return ({ field with width := width.natAbs, left := field.left || width < 0 }, supply)

/-- Sets the precision of a field. A negative precision from an argument stands for zero. -/
def fillPrecision (conversion : Conversion) (field : Field) (supply : Supply) :
    Except Fault (Field × Supply) :=
  match conversion.precision with
  | .absent => .ok (field, supply)
  | .given precision =>
    if maxPrecision < precision then .error (.mishap (.badFormat "precision too big"))
    else .ok ({ field with precision }, supply)
  | .argument => do
    let (argument, supply) ← supply.next
    let precision ← sizeOf maxPrecision argument
    return ({ field with precision := precision.toNat }, supply)

/-- The text of a type that there is no conversion for. -/
def unsupported (type : CodePoint) (place : Nat) : Text :=
  let shown : CodePoint := if 31 ≤ type.value && type.value ≤ 126 then type else '?'
  "unsupported format character '" ++ Text.singleton shown ++ "' (0x" ++
    Text.ofChars (paddedHex 0 type.value) ++ ") at index " ++ natText place

/-- Fills a conversion: the name first, then the sizes, then the argument it shows. -/
def fill (conversion : Conversion) (supply : Supply) :
    Except Fault (Text × Supply) := do
  let supply ← supply.turnTo conversion.name
  let (field, supply) ← conversion.fillWidth conversion.flags supply
  let (field, supply) ← conversion.fillPrecision field supply
  match conversion.type? with
  | none => throw (.mishap (.badFormat "incomplete format"))
  | some type =>
    let (argument, supply) ← supply.next
    match convert? field type argument with
    | some text => return (← text, supply)
    | none => throw (.mishap (.badFormat (unsupported type conversion.place)))

end Conversion

def fill (supply : Supply) : List Part → Except Fault Text
  | [] => do
    supply.finish
    return ""
  | .point point :: rest => do return .singleton point ++ (← fill supply rest)
  | .conversion conversion :: rest => do
    let (text, supply) ← conversion.fill supply
    return text ++ (← fill supply rest)

def message (template : Text) (arguments : List Datum) : Except Fault Text :=
  if arguments.isEmpty then .ok template
  else fill (.ofArguments arguments) (readParts 0 0 template.points)

example : (message "%s=%5d%%" [.text "a", .int 42]).toOption = some "a=   42%" := by
  decide +kernel
example : (message "%(a)*.2f" [.table [("a", .int 1)]]).toOption = none := by decide +kernel
example : (message "%-*X|%+.1e" [.int 4, .int 255, .int 15]).toOption = some "FF  |+1.5e+01" := by
  decide +kernel

end ObjectStorage.Log
