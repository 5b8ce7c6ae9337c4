import Mathlib.Tactic.Linarith
import ObjectStorage.Proofs.Backoff

/-!
# Rounding of delays

A number of seconds is rounded to whole microseconds by its parts: the whole seconds exactly, and
what is beyond them once as a floating-point number and once as an integer. Together this is off by
half a microsecond at most, and 2 ^ -33 of one more (`Binary64.micros_roundsTwice`); so by less than
one microsecond (`Binary64.micros_near`).
-/

namespace ObjectStorage

open Number Time

namespace Number

theorem twoTo_add (first second : Nat) : twoTo (first + second) = twoTo first * twoTo second :=
  Nat.pow_add 2 first second

theorem twoTo_succ (exponent : Nat) : twoTo (exponent + 1) = 2 * twoTo exponent := by
  change 2 ^ (exponent + 1) = 2 * 2 ^ exponent
  rw [Nat.pow_succ, Nat.mul_comm]

/-- A fraction of less than a million is rounded with 32 binary places behind the point at least. -/
theorem Binary64.nearest_small {num places : Nat} (filled : num ≠ 0)
    (small : num < twoTo (places + 20)) : ∃ significand behind : Nat, 32 ≤ behind ∧
      nearest false num (twoTo places) = .finite false significand (-(behind : Int)) ∧
      2 * (significand * twoTo places) ≤ 2 * (num * twoTo behind) + twoTo places ∧
      2 * (num * twoTo behind) ≤ 2 * (significand * twoTo places) + twoTo places := by
  have numLog : num.log2 < places + 20 := (Nat.log2_lt filled).mpr small
  have denLog : (twoTo places).log2 = places := Nat.log2_two_pow
  unfold nearest
  rw [if_neg filled, denLog]
  dsimp only
  -- Whether or not the estimate is one too high, the leading place is below the twentieth.
  generalize leads : (if reachesPower num (twoTo places) ((num.log2 : Int) - places) then
    (num.log2 : Int) - places else (num.log2 : Int) - places - 1) = lead
  have low : lead ≤ 19 := by
    rw [← leads]
    split <;> omega
  have least : minExponent = -1074 := rfl
  obtain ⟨behind, isBehind, deep⟩ : ∃ behind : Nat,
      max (lead - 52) minExponent = -(behind : Int) ∧ 33 ≤ behind := by
    refine ⟨(-(max (lead - 52) minExponent)).toNat, ?_, ?_⟩ <;> omega
  rw [isBehind, Int.neg_neg, Int.toNat_natCast, Int.toNat_neg_natCast]
  have one : twoTo places * twoTo 0 = twoTo places := Nat.mul_one _
  rw [one]
  obtain ⟨notMore, notLess⟩ := roundDiv_error (num * twoTo behind) (twoTo_pos places)
  by_cases carried : roundDiv (num * twoTo behind) (twoTo places) = twoTo 53
  · obtain ⟨before, rfl⟩ : ∃ before, behind = before + 1 := ⟨behind - 1, by omega⟩
    rw [carried] at notMore notLess
    rw [if_pos carried, if_pos carried, if_neg (by omega)]
    refine ⟨twoTo 52, before, by omega, ?_, ?_, ?_⟩
    · congr 1
      omega
    all_goals
      have carry : twoTo 53 * twoTo places = 2 * (twoTo 52 * twoTo places) := by
        rw [twoTo_succ 52, Nat.mul_assoc]
      have place : num * twoTo (before + 1) = 2 * (num * twoTo before) := by
        rw [twoTo_succ, Nat.mul_left_comm]
      omega
  · rw [if_neg carried, if_neg carried, if_neg (by omega)]
    exact ⟨_, behind, by omega, rfl, notMore, notLess⟩

/-- A whole number is off from a quotient by half at most, and 2 ^ -33 more: the second for rounding
a first time with 32 binary places behind the point. -/
def RoundsTwice (whole num unit : Nat) : Prop :=
  twoTo 33 * (whole * unit) ≤ twoTo 33 * num + (twoTo 32 + 1) * unit ∧
    twoTo 33 * num ≤ twoTo 33 * (whole * unit) + (twoTo 32 + 1) * unit

/-- What a number is rounded to is less than one away from it. -/
theorem RoundsTwice.near {whole num unit : Nat} (positive : 0 < unit)
    (rounds : RoundsTwice whole num unit) :
    whole * unit < num + unit ∧ num < whole * unit + unit := by
  obtain ⟨above, under⟩ := rounds
  have units : twoTo 33 = 8589934592 ∧ twoTo 32 = 4294967296 := ⟨rfl, rfl⟩
  rw [units.1, units.2] at above under
  omega

/-- Rounding a second time, after a first time with 32 binary places or more. -/
theorem roundsTwice {whole rounded num behind unit : Nat} (deep : 32 ≤ behind)
    (notMore : 2 * (rounded * unit) ≤ 2 * (num * twoTo behind) + unit)
    (notLess : 2 * (num * twoTo behind) ≤ 2 * (rounded * unit) + unit)
    (above : 2 * (whole * twoTo behind) ≤ 2 * rounded + twoTo behind)
    (under : 2 * rounded ≤ 2 * (whole * twoTo behind) + twoTo behind) :
    RoundsTwice whole num unit := by
  obtain ⟨more, rfl⟩ : ∃ more, behind = 32 + more := ⟨behind - 32, by omega⟩
  have positive := twoTo_pos more
  have least : unit ≤ twoTo more * unit := Nat.le_mul_of_pos_left unit positive
  rw [twoTo_add] at notMore notLess above under
  have above := Nat.mul_le_mul_right unit above
  have under := Nat.mul_le_mul_right unit under
  -- Both bounds hold of the numbers taken `twoTo more` times.
  unfold RoundsTwice
  rw [twoTo_succ 32]
  generalize twoTo 32 = first at *
  generalize twoTo more = times at *
  constructor
  · refine Nat.le_of_mul_le_mul_left ?_ positive
    nlinarith
  · refine Nat.le_of_mul_le_mul_left ?_ positive
    nlinarith

/-- The integer next to the magnitude of a finite number. -/
def Binary64.rounded : Binary64 → Nat
  | .finite _ significand exponent =>
    roundDiv (significand * twoTo exponent.toNat) (twoTo (-exponent).toNat)
  | _ => 0

/-- The integer next to a fraction of less than a million, which is rounded as a floating-point
number first. -/
theorem Binary64.rounded_nearest {num places : Nat} (small : num < twoTo (places + 20)) :
    RoundsTwice (nearest false num (twoTo places)).rounded num (twoTo places) := by
  by_cases filled : num = 0
  · have none : (nearest false 0 (twoTo places)).rounded = 0 := by
      have zero : nearest false 0 (twoTo places) = .finite false 0 (-1074) := rfl
      rw [zero]
      simp [rounded, roundDiv]
    rw [filled, none]
    constructor <;> simp
  · obtain ⟨significand, behind, deep, isNearest, notMore, notLess⟩ := nearest_small filled small
    have reads : (nearest false num (twoTo places)).rounded =
        roundDiv significand (twoTo behind) := by
      rw [isNearest]
      dsimp only [rounded]
      rw [Int.toNat_neg_natCast, Int.neg_neg, Int.toNat_natCast]
      exact congrArg (roundDiv · _) (Nat.mul_one _)
    obtain ⟨above, under⟩ := roundDiv_error significand (twoTo_pos behind)
    rw [reads]
    exact roundsTwice deep notMore notLess above under

end Number

/-- The microseconds of a fraction of a second are its millionths, rounded twice. -/
theorem Time.Duration.fractionMicros_eq : fractionMicros = fun significand exponent =>
    (Binary64.nearest false (Binary64.fraction significand exponent * microsPerSecond)
      (twoTo (-exponent).toNat)).rounded := by
  -- Without its arguments, since otherwise the product would be computed to choose a case.
  delta fractionMicros
  funext significand exponent
  generalize Binary64.nearest false (Binary64.fraction significand exponent * microsPerSecond)
    (twoTo (-exponent).toNat) = product
  cases product <;> rfl

/-- What a fraction of a second has in microseconds is rounded twice. -/
theorem Time.Duration.fractionMicros_roundsTwice (significand : Nat) (exponent : Int) :
    RoundsTwice (fractionMicros significand exponent)
      (Binary64.fraction significand exponent * microsPerSecond) (twoTo (-exponent).toNat) := by
  have below : Binary64.fraction significand exponent < twoTo (-exponent).toNat :=
    Nat.mod_lt _ (twoTo_pos _)
  have small : Binary64.fraction significand exponent * microsPerSecond <
      twoTo ((-exponent).toNat + 20) := by
    have million : microsPerSecond < twoTo 20 := by decide
    rw [twoTo_add]
    exact Nat.mul_lt_mul'' below million
  rw [fractionMicros_eq]
  exact Binary64.rounded_nearest small

/-- So are the microseconds of a number of seconds, since its whole seconds are exact. -/
theorem Number.Binary64.micros_roundsTwice (significand : Nat) (exponent : Int) :
    RoundsTwice (micros significand exponent)
      (significand * twoTo exponent.toNat * microsPerSecond) (twoTo (-exponent).toNat) := by
  obtain ⟨above, under⟩ := Duration.fractionMicros_roundsTwice significand exponent
  have parts : significand * twoTo exponent.toNat =
      twoTo (-exponent).toNat * wholePart significand exponent + fraction significand exponent :=
    (Nat.div_add_mod _ _).symm
  have product : micros significand exponent * twoTo (-exponent).toNat =
      twoTo (-exponent).toNat * wholePart significand exponent * microsPerSecond +
        Duration.fractionMicros significand exponent * twoTo (-exponent).toNat := by
    unfold micros
    rw [Nat.add_mul, Nat.mul_right_comm, Nat.mul_comm (wholePart significand exponent)]
  unfold RoundsTwice
  rw [parts, product, Nat.add_mul, Nat.mul_add, Nat.mul_add]
  omega

/-- The microseconds of a number of seconds are off by less than one. -/
theorem Number.Binary64.micros_near (significand : Nat) (exponent : Int) :
    let seconds := significand * twoTo exponent.toNat
    let unit := twoTo (-exponent).toNat
    micros significand exponent * unit < seconds * microsPerSecond + unit ∧
      seconds * microsPerSecond < micros significand exponent * unit + unit :=
  (micros_roundsTwice significand exponent).near (twoTo_pos _)

end ObjectStorage
