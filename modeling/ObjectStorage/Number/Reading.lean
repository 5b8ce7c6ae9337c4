import ObjectStorage.Number.Shortest
import ObjectStorage.Text.Blank

/-!
# Reading numbers

The numbers that texts stand for. A text may have blanks around the number, digits of any script,
and single underscores between digits. A half of a pair is no part of a number. A whole number is a
row of digits with a sign (`readInt?`); any other number has a point, a power of ten, or is a name
for infinity or NaN (`readBinary64?`).
-/

namespace ObjectStorage.Number

open Text

/-- The blanks allowed around a number: those of texts, less the information separators. -/
def isOuterBlank (c : Char) : Bool :=
  isBlank c && !(28 ≤ c.toNat && c.toNat ≤ 31)

/-- The ASCII form of a digit of any script; any other character stays. -/
def plainDigit (c : Char) : Char :=
  match digitValue? c with
  | some value => digitChar value
  | none => c

/-- Takes underscores out, `before` being the character in front of the list. Each must stand
between two digits. -/
def dropUnderscores (before : Char) : List Char → Option (List Char)
  | [] => if before == '_' then none else some []
  | c :: rest =>
    if c == '_' then
      if before.isDigit then dropUnderscores c rest else none
    else if before == '_' && !c.isDigit then none
    else (dropUnderscores c rest).map (c :: ·)

/-- The characters of a number in a text: no blanks around, plain digits, no underscores. -/
def plainNumber? (text : Text) : Option (List Char) :=
  dropUnderscores '\x00' ((trimBoth isOuterBlank text.chars).map plainDigit)

/-- The sign in front of a number, and what follows it. -/
def cutSign : List Char → Bool × List Char
  | '-' :: rest => (true, rest)
  | '+' :: rest => (false, rest)
  | rest => (false, rest)

def rowValue (digits : List Char) : Nat :=
  digitsValue (digits.map fun c => c.toNat - 48)

/-- The most digits that a whole number is read from. -/
def maxReadDigits : Nat := 4300

/-- What is said of a whole number with too many digits. -/
def manyDigitsText (count : Nat) : Text :=
  "Exceeds the limit (" ++ natText maxReadDigits ++
    " digits) for integer string conversion: value has " ++ natText count ++
    " digits; use sys.set_int_max_str_digits() to increase the limit"

/-- How many digits a text begins with, if they are too many for a whole number. What follows them
is not looked at, but each underscore among them must stand between two digits. -/
def tooManyDigits? (text : Text) : Option Nat := do
  let (_, rest) := cutSign ((trimBoth isOuterBlank text.chars).map plainDigit)
  let row := rest.takeWhile fun c => c.isDigit || c == '_'
  let count := (← dropUnderscores '\x00' row).length
  guard (maxReadDigits < count)
  return count

def readInt? (text : Text) : Option Int := do
  let (negative, digits) := cutSign (← plainNumber? text)
  guard (!digits.isEmpty && digits.all Char.isDigit)
  return Binary64.signed negative (rowValue digits)

/-- The power of ten at the end of a number; nothing stands for the power zero. -/
def readPower? : List Char → Option Int
  | [] => some 0
  | c :: rest => do
    guard (c == 'e' || c == 'E')
    let (negative, digits) := cutSign rest
    guard (!digits.isEmpty && digits.all Char.isDigit)
    return Binary64.signed negative (rowValue digits)

/-- The number nearest to `digits * 10 ^ exponent`. Far beyond the range of the format, the answer
is infinity or zero whatever the digits are. -/
def ofDigits (negative : Bool) (digits : List Char) (exponent : Int) : Binary64 :=
  let value := rowValue digits
  let size : Int := digits.length
  if value = 0 then .zero negative
  else if 400 < exponent + ((digits.dropWhile (· == '0')).length : Int) then .infinity negative
  else if exponent + size < -400 then .zero negative
  else Decimal.toBinary64 negative ⟨value, exponent⟩

/-- Reads an unsigned decimal: digits, a point and a power of ten, with one digit at least before
the power. -/
def readMagnitude? (negative : Bool) (text : List Char) : Option Binary64 := do
  let whole := text.takeWhile Char.isDigit
  let rest := text.dropWhile Char.isDigit
  let (places, rest) := match rest with
    | '.' :: after => (after.takeWhile Char.isDigit, after.dropWhile Char.isDigit)
    | _ => ([], rest)
  guard (!(whole ++ places).isEmpty)
  let power ← readPower? rest
  return ofDigits negative (whole ++ places) (power - places.length)

def readBinary64? (text : Text) : Option Binary64 := do
  let (negative, rest) := cutSign (← plainNumber? text)
  let name := String.ofList (rest.map Char.toLower)
  if name == "inf" || name == "infinity" then return .infinity negative
  if name == "nan" then return .nan 0
  readMagnitude? negative rest

example : readInt? " +1_0 " = some 10 := by decide +kernel
example : readInt? "1__0" = none := by decide +kernel
example : readBinary64? ".5e1" = some (.ofInt 5) := by decide +kernel

end ObjectStorage.Number
