import ObjectStorage.Number.Power

/-!
# Binary floating-point numbers

The numbers of the 64-bit binary format, with exact arithmetic on integers in place of the
machine's. A finite number is a significand times a power of two. Rounding a quotient goes to the
nearest number and a tie to the even significand (`nearest`); the integer it rests on is within half
a unit (`roundDiv_error`).
-/

namespace ObjectStorage.Number

/-- The integer nearest to a quotient; a tie goes to the even one. -/
def roundDiv (num den : Nat) : Nat :=
  let quotient := num / den
  let rest := 2 * (num % den)
  if rest < den then quotient
  else if den < rest then quotient + 1
  else quotient + quotient % 2

/-- Rounding moves a quotient by half a unit at most. -/
theorem roundDiv_error (num : Nat) {den : Nat} (positive : 0 < den) :
    2 * (roundDiv num den * den) ≤ 2 * num + den ∧
      2 * num ≤ 2 * (roundDiv num den * den) + den := by
  have whole : den * (num / den) + num % den = num := Nat.div_add_mod num den
  have small : num % den < den := Nat.mod_lt num positive
  have parity : num / den % 2 = 0 ∨ num / den % 2 = 1 := by omega
  have up : (num / den + 1) * den = den * (num / den) + den := by
    rw [Nat.add_mul, Nat.mul_comm]; omega
  have stay : num / den * den = den * (num / den) := Nat.mul_comm ..
  unfold roundDiv
  dsimp only
  split
  · omega
  · split
    · omega
    · rcases parity with even | odd
      · simp only [even, Nat.add_zero]; omega
      · simp only [odd]; omega

/-- A number of the 64-bit binary format. A finite number is `significand * 2 ^ exponent` with its
sign, its exponent being at least -1074 and the significand below 2 ^ 53. NaN is no number, and its
payload tells one NaN from another. -/
inductive Binary64
  | nan (payload : Nat)
  | infinity (negative : Bool)
  | finite (negative : Bool) (significand : Nat) (exponent : Int)
  deriving DecidableEq, Repr

namespace Binary64

/-- The least exponent, which the numbers closest to zero have. -/
def minExponent : Int := -1074

def zero (negative : Bool) : Binary64 :=
  .finite negative 0 minExponent

/-- The quotient of two positive numbers is at least a power of two. -/
def reachesPower (num den : Nat) (power : Int) : Bool :=
  den * twoTo power.toNat ≤ num * twoTo (-power).toNat

/-- The number nearest to a quotient, the denominator being positive. Beyond the largest finite
number, after rounding, lies infinity. -/
def nearest (negative : Bool) (num den : Nat) : Binary64 :=
  if num = 0 then zero negative
  else
    let estimate : Int := (num.log2 : Int) - den.log2
    let lead := if reachesPower num den estimate then estimate else estimate - 1
    let exponent := max (lead - 52) minExponent
    let significand := roundDiv (num * twoTo (-exponent).toNat) (den * twoTo exponent.toNat)
    let carried := significand = twoTo 53
    let exponent := if carried then exponent + 1 else exponent
    let significand := if carried then twoTo 52 else significand
    if 971 < exponent then .infinity negative else .finite negative significand exponent

def ofInt (n : Int) : Binary64 :=
  nearest (n < 0) n.natAbs 1

def signed (negative : Bool) (magnitude : Nat) : Int :=
  if negative then -magnitude else magnitude

/-- A finite number counted in units of `2 ^ minExponent`, the smallest positive number. -/
def units (negative : Bool) (significand : Nat) (exponent : Int) : Int :=
  signed negative (significand * twoTo (exponent - minExponent).toNat)

/-- Two numbers are equal: no number equals NaN, and the two zeros are equal. -/
def same : Binary64 → Binary64 → Bool
  | .infinity s, .infinity t => s == t
  | .finite s m e, .finite t n f => units s m e == units t n f
  | _, _ => false

def sameInt (n : Int) : Binary64 → Bool
  | .finite s m e => units s m e == n * twoTo (-minExponent).toNat
  | _ => false

def isZero : Binary64 → Bool
  | .finite _ m _ => m == 0
  | _ => false

/-- The number is zero or less; NaN is not. -/
def nonpositive : Binary64 → Bool
  | .nan _ => false
  | .infinity negative => negative
  | .finite negative m _ => negative || m == 0

/-- The magnitude of the whole part of a finite number. -/
def wholePart (significand : Nat) (exponent : Int) : Nat :=
  significand * twoTo exponent.toNat / twoTo (-exponent).toNat

/-- What the magnitude of a finite number has beyond its whole part, in units of `2 ^ exponent`. -/
def fraction (significand : Nat) (exponent : Int) : Nat :=
  significand * twoTo exponent.toNat % twoTo (-exponent).toNat

/-- The 64 bits of a number. The payload of a NaN has the last 51. -/
def toBits : Binary64 → UInt64
  | .nan payload => 0x7FF8000000000000 + UInt64.ofNat (payload % twoTo 51)
  | .infinity negative => (if negative then 0x8000000000000000 else 0) + 0x7FF0000000000000
  | .finite negative m e =>
    let magnitude :=
      if m < twoTo 52 then m else (e + 1075).toNat * twoTo 52 + (m - twoTo 52)
    (if negative then 0x8000000000000000 else 0) + UInt64.ofNat magnitude

example : (ofInt 1).toBits = 0x3FF0000000000000 := by decide
example : nearest false 1 10 = .finite false 7205759403792794 (-56) := by decide
example : (nearest false 5 (tenTo 324)).toBits = 1 := by decide +kernel

end Binary64

end ObjectStorage.Number
