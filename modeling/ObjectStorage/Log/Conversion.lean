import ObjectStorage.Datum.Reading
import ObjectStorage.Log.Field

/-!
# Conversions

What an argument shows by the type of its conversion: its plain or its described form, a character,
a whole number to one of three bases, or a floating-point number in one of three ways.
-/

namespace ObjectStorage.Log

open Number Text

/-- The mishap of an argument that a conversion has no use for. -/
def misfit (detail : String) : Fault :=
  .mishap (.wrongType detail)

def asciiOf (point : CodePoint) : List CodePoint :=
  if point.value < 128 then [point] else (codePointEscape point).map .char

/-- The floating-point number that an argument stands for; a whole number is rounded to one. -/
def realOf : Datum → Except Fault Binary64
  | .real value => .ok value
  | .bool value => .ok (.ofInt value.toInt)
  | .int value =>
    match Binary64.ofInt value with
    | .infinity _ => .error (.mishap (.tooLarge "int too large to convert to float"))
    | rounded => .ok rounded
  | _ => .error (misfit "must be real number")

def indexOf : Datum → Except Fault Int
  | .bool value => .ok value.toInt
  | .int value => .ok value
  | _ => .error (misfit "an integer is required")

/-- The whole number that a number stands for, a fraction being cut off. -/
def wholeOf : Datum → Except Fault Int
  | .real value => Datum.toInteger (.real value)
  | other => indexOf other

/-- The largest precision that a whole number may have. -/
def maxDigits : Nat := 2147483644

/-- The letters of a number, which may be wanted as capitals. -/
def letters (capital : Bool) (row : List Char) : List Char :=
  if capital then row.map Char.toUpper else row

/-- A whole number to a base. The precision counts its digits at least, and in the alternate form a
mark for the base leads them. -/
def wholeText (field : Field) (base : Nat) (mark : List Char) (capital : Bool) (value : Int) :
    Except Fault Text :=
  let places := field.precision.getD 0
  if maxDigits < places then .error (.mishap (.tooLarge "precision too large"))
  else .ok <| field.fitNumber (value < 0) (if field.alternate then letters capital mark else [])
    (letters capital (paddedIn base places value.natAbs))

/-- The ways to write a floating-point number. -/
inductive Style
  | fixed
  | scientific
  | general
  deriving DecidableEq, Repr

/-- The digits of a finite number written in a style. -/
def Style.digits (style : Style) (keepPoint : Bool) (precision significand : Nat)
    (exponent : Int) : List Char :=
  match style with
  | .fixed => fixedText keepPoint precision significand exponent
  | .scientific => scientificText keepPoint precision significand exponent
  | .general => generalText keepPoint (max precision 1) significand exponent

/-- The precision of a floating-point number when the field does not say. -/
def usualPrecision : Nat := 6

def realText (field : Field) (style : Style) (capital : Bool) (value : Binary64) : Text :=
  let shown := fun negative digits => field.fitNumber negative [] (letters capital digits)
  match value with
  | .nan _ => shown false ['n', 'a', 'n']
  | .infinity negative => shown negative ['i', 'n', 'f']
  | .finite negative significand exponent =>
    shown negative
      (style.digits field.alternate (field.precision.getD usualPrecision) significand exponent)

/-- The one code point that an argument holds or is the number of. -/
def characterOf : Datum → Except Fault Text
  | .text value =>
    match value.points with
    | [point] => .ok (.singleton point)
    | _ => .error (misfit "%c requires int or char")
  | other => do
    let code ← indexOf other
    if code < 0 || 0x10FFFF < code then
      throw (.mishap (.tooLarge "%c arg not in range(0x110000)"))
    return .singleton (.ofValue code.toNat)

/-- The text of an argument by the type of its conversion. Other types have none. -/
def convert? (field : Field) (type : CodePoint) (argument : Datum) : Option (Except Fault Text) :=
  let whole := fun (base : Nat) (mark : List Char) (capital : Bool) => do
    wholeText field base mark capital (← indexOf argument)
  let real := fun (style : Style) (capital : Bool) => do
    return realText field style capital (← realOf argument)
  match type with
  | .char 's' => some (.ok (field.fit (field.cut argument.plain)))
  | .char 'r' => some (.ok (field.fit (field.cut argument.described)))
  | .char 'a' => some (.ok (field.fit (field.cut ⟨argument.described.points.flatMap asciiOf⟩)))
  | .char 'c' => some do return field.fit (← characterOf argument)
  | .char 'd' | .char 'i' | .char 'u' => some do
    wholeText field 10 [] false (← wholeOf argument)
  | .char 'o' => some (whole 8 ['0', 'o'] false)
  | .char 'x' => some (whole 16 ['0', 'x'] false)
  | .char 'X' => some (whole 16 ['0', 'x'] true)
  | .char 'f' => some (real .fixed false)
  | .char 'F' => some (real .fixed true)
  | .char 'e' => some (real .scientific false)
  | .char 'E' => some (real .scientific true)
  | .char 'g' => some (real .general false)
  | .char 'G' => some (real .general true)
  | _ => none

end ObjectStorage.Log
