import ObjectStorage.Number.Binary64
import ObjectStorage.Text.Digit

/-!
# Shortest decimal text

The text of a floating-point number with the fewest digits that read back as the same number.
Digits are sought on the decimal grids of one digit, two digits and so on: the first grid with a
point that reads back wins, and of its two points around the number the nearer one.
-/

namespace ObjectStorage.Number

open Text

/-- A positive decimal `digits * 10 ^ exponent`. -/
structure Decimal where
  digits : Nat
  exponent : Int
  deriving DecidableEq, Repr

namespace Decimal

/-- The numerator of a decimal over `denominator`. -/
def numerator (d : Decimal) : Nat := d.digits * tenTo d.exponent.toNat

def denominator (d : Decimal) : Nat := tenTo (-d.exponent).toNat

/-- The floating-point number nearest to a decimal. -/
def toBinary64 (negative : Bool) (d : Decimal) : Binary64 :=
  .nearest negative d.numerator d.denominator

end Decimal

/-- The decimal exponent of the leading digit of a positive quotient. -/
def leadingExponent (num den : Nat) : Int :=
  let estimate : Int := ((Nat.toDigits 10 num).length : Int) - (Nat.toDigits 10 den).length
  if den * tenTo estimate.toNat ≤ num * tenTo (-estimate).toNat then estimate else estimate - 1

/-- The point of the grid of `count` digits that reads back as a number, if there is one. Of two,
the nearer is taken, and the even one of two equally near. -/
def gridPoint? (number : Binary64) (num den : Nat) (lead : Int) (count : Nat) : Option Decimal :=
  let exponent := lead - (count - 1 : Nat)
  let num' := num * tenTo (-exponent).toNat
  let den' := den * tenTo exponent.toNat
  let below : Decimal := ⟨num' / den', exponent⟩
  let above : Decimal := ⟨num' / den' + 1, exponent⟩
  let near : Decimal := ⟨roundDiv num' den', exponent⟩
  let hit : Decimal → Bool := fun d => d.toBinary64 false == number
  if hit below && hit above then some near
  else if hit below then some below
  else if hit above then some above
  else none

/-- The shortest decimal of a positive finite number. Seventeen digits always read back. -/
def shortest (significand : Nat) (exponent : Int) : Decimal :=
  let num := significand * twoTo exponent.toNat
  let den := twoTo (-exponent).toNat
  let lead := leadingExponent num den
  let number := Binary64.finite false significand exponent
  ((List.range 17).findSome? fun n => gridPoint? number num den lead (n + 1)).getD ⟨num / den, 0⟩

def withoutTrailingZeros (digits : List Char) : List Char :=
  (digits.reverse.dropWhile (· == '0')).reverse

/-- A power of ten behind the digits it belongs to. -/
def powerText (power : Int) : List Char :=
  'e' :: (if power < 0 then '-' else '+') :: paddedDigits 2 power.natAbs

/-- A positive decimal is written by position when its leading digit stands among the sixteen
places before the point or the four after it, and with a power of ten otherwise. -/
def Decimal.text (d : Decimal) : List Char :=
  let all := Nat.toDigits 10 d.digits
  let point : Int := all.length + d.exponent
  let digits := withoutTrailingZeros all
  if -4 < point ∧ point ≤ 16 then
    if point ≤ 0 then '0' :: '.' :: List.replicate (-point).toNat '0' ++ digits
    else
      let whole := digits.take point.toNat
      let fraction := digits.drop point.toNat
      whole ++ List.replicate (point.toNat - whole.length) '0' ++
        '.' :: (if fraction.isEmpty then ['0'] else fraction)
  else
    let mantissa := match digits with
      | first :: second :: rest => first :: '.' :: second :: rest
      | short => short
    mantissa ++ powerText (point - 1)

/-- The text of a number. -/
def Binary64.text : Binary64 → Text
  | .nan _ => "nan"
  | .infinity negative => if negative then "-inf" else "inf"
  | .finite negative significand exponent =>
    let magnitude :=
      if significand = 0 then ['0', '.', '0'] else (shortest significand exponent).text
    .ofChars (if negative then '-' :: magnitude else magnitude)

example : (Binary64.nearest false 1 10).text = "0.1" := by decide +kernel
example : (Binary64.nearest false 5 (tenTo 324)).text = "5e-324" := by decide +kernel

end ObjectStorage.Number
