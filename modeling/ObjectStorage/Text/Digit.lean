import ObjectStorage.Text.Basic

/-!
# Decimal digits

The value of a decimal digit of any script, and the digits of a number.
-/

namespace ObjectStorage.Text

/-- The zeros of the decimal digit rows of Unicode: the nine digits after each follow in order. -/
def digitZeros : List Nat :=
  [48, 1632, 1776, 1984, 2406, 2534, 2662, 2790, 2918, 3046, 3174, 3302, 3430, 3558, 3664, 3792,
   3872, 4160, 4240, 6112, 6160, 6470, 6608, 6784, 6800, 6992, 7088, 7232, 7248, 42528, 43216,
   43264, 43472, 43504, 43600, 44016, 65296, 66720, 68912, 69734, 69872, 69942, 70096, 70384,
   70736, 70864, 71248, 71360, 71472, 71904, 72016, 72784, 73040, 73120, 92768, 92864, 93008,
   120782, 120792, 120802, 120812, 120822, 123200, 123632, 125264, 130032]

/-- The value of a decimal digit of any script. -/
def digitValue? (c : Char) : Option Nat :=
  let n := c.toNat
  if n < 128 then if 48 ≤ n && n ≤ 57 then some (n - 48) else none
  else (digitZeros.find? fun first => first ≤ n && n ≤ first + 9).map (n - ·)

def digitChar (value : Nat) : Char :=
  Char.ofNat (48 + value % 10)

/-- The digits of a number to a base of sixteen at most, the highest first, padded with zeros to a
width. -/
def paddedIn (base width number : Nat) : List Char :=
  let digits := Nat.toDigits base number
  List.replicate (width - digits.length) '0' ++ digits

theorem length_paddedIn (base width number : Nat) :
    (paddedIn base width number).length = max width (Nat.toDigits base number).length := by
  simp only [paddedIn, List.length_append, List.length_replicate]
  omega

/-- The ASCII digits of a number, the highest first, padded with zeros to a width. -/
def paddedDigits (width number : Nat) : List Char :=
  paddedIn 10 width number

def natText (number : Nat) : Text :=
  .ofChars (Nat.toDigits 10 number)

/-- A number in decimal, with a minus sign before it when it is negative. -/
def intText : Int → Text
  | .ofNat n => natText n
  | .negSucc n => "-" ++ natText (n + 1)

def digitsValue (digits : List Nat) : Nat :=
  digits.foldl (fun value digit => value * 10 + digit) 0

/-- The two lower-case hexadecimal digits of a byte. -/
def hexByte (byte : UInt8) : List Char :=
  [Nat.digitChar (byte.toNat / 16), Nat.digitChar (byte.toNat % 16)]

/-- A number in lower-case hexadecimal, padded with zeros to a width. -/
def paddedHex (width number : Nat) : List Char :=
  paddedIn 16 width number

def hexValue? (c : Char) : Option Nat :=
  if c.isDigit then some (c.toNat - 48)
  else if 'a' ≤ c ∧ c ≤ 'f' then some (c.toNat - 87)
  else if 'A' ≤ c ∧ c ≤ 'F' then some (c.toNat - 55)
  else none

end ObjectStorage.Text
