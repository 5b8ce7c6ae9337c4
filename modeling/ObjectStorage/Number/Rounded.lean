import ObjectStorage.Number.Shortest

/-!
# Rounded decimal text

The text of a finite number without its sign, rounded to so many digits: with places behind the
point (`fixedText`), with one digit before the point and a power of ten (`scientificText`), or as
the size of the number asks for (`generalText`). A tie goes to the even digit. On request the point
stands even with nothing behind it.
-/

namespace ObjectStorage.Number

open Text

/-- The integer nearest to `significand * 2 ^ exponent * 10 ^ power`. -/
def scaled (significand : Nat) (exponent power : Int) : Nat :=
  roundDiv (significand * twoTo exponent.toNat * tenTo power.toNat)
    (twoTo (-exponent).toNat * tenTo (-power).toNat)

/-- Two rows of digits and the point between them. -/
def pointed (keepPoint : Bool) (whole places : List Char) : List Char :=
  if places.isEmpty && !keepPoint then whole else whole ++ '.' :: places

theorem pointed_nil (whole : List Char) : pointed false whole [] = whole := rfl

/-- A number with so many places behind the point. -/
def fixedText (keepPoint : Bool) (places significand : Nat) (exponent : Int) : List Char :=
  let row := paddedDigits (places + 1) (scaled significand exponent places)
  let size := row.length - places
  pointed keepPoint (row.take size) (row.drop size)

/-- The leading digits of a number, so many of them, and the power of ten of the first one.
Rounding up may bring a digit more, and with it the next power. -/
def leadingDigits (count significand : Nat) (exponent : Int) : List Char × Int :=
  if significand = 0 then (List.replicate count '0', 0)
  else
    let lead := leadingExponent (significand * twoTo exponent.toNat) (twoTo (-exponent).toNat)
    let row := Nat.toDigits 10 (scaled significand exponent ((count : Int) - 1 - lead))
    (row.take count, lead + ((row.length : Int) - count))

/-- A number with one digit before the point and so many places behind it. -/
def scientificText (keepPoint : Bool) (places significand : Nat) (exponent : Int) : List Char :=
  let (digits, power) := leadingDigits (places + 1) significand exponent
  pointed keepPoint (digits.take 1) (digits.drop 1) ++ powerText power

/-- A number with so many leading digits, one at least: by position when the first of them stands
among those before the point or the four places behind it, and with a power of ten otherwise. The
zeros at the end are left out unless the point is kept. -/
def generalText (keepPoint : Bool) (count significand : Nat) (exponent : Int) : List Char :=
  let (digits, power) := leadingDigits count significand exponent
  let shown := fun places => if keepPoint then places else withoutTrailingZeros places
  if -4 ≤ power ∧ power < count then
    if power < 0 then
      pointed keepPoint ['0'] (List.replicate (-power - 1).toNat '0' ++ shown digits)
    else
      let size := (power + 1).toNat
      pointed keepPoint (digits.take size) (shown (digits.drop size))
  else pointed keepPoint (digits.take 1) (shown (digits.drop 1)) ++ powerText power

example : fixedText false 1 5 (-2) = ['1', '.', '2'] := by decide +kernel
example : scientificText true 0 1999 0 = ['2', '.', 'e', '+', '0', '3'] := by decide +kernel
example : generalText false 6 5 (-1) = ['2', '.', '5'] := by decide +kernel

end ObjectStorage.Number
