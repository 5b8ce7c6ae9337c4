import ObjectStorage.Proofs.Resuming.Rounding
import ObjectStorage.Settings

/-!
# Numbers of seconds in settings

Settings may say how long to wait, by a number of seconds. A positive one takes some time
(`Datum.delay?`), which is that number rounded to whole microseconds (`Datum.delay?_roundsTo`). The
check of the settings refuses the numbers that are zero or less, and what is no number at all; but
besides the positive ones it accepts NaN and infinity (`SettingsDraft.checkRetry_ok_iff`).
-/

namespace ObjectStorage

open Number Text Time

namespace Datum

/-- A number that is zero or less. -/
inductive IsNonpositive : Datum → Prop
  | bool : IsNonpositive (.bool false)
  | int {seconds : Int} (low : seconds ≤ 0) : IsNonpositive (.int seconds)
  | real {seconds : Binary64} (low : seconds.nonpositive = true) : IsNonpositive (.real seconds)

/-- NaN and infinity, which are not zero or less. -/
inductive IsEndless : Datum → Prop
  | nan (payload : Nat) : IsEndless (.real (.nan payload))
  | infinity : IsEndless (.real (.infinity false))

/-- A number is a positive quotient. -/
inductive IsQuotient : Datum → Nat → Nat → Prop
  | bool : IsQuotient (.bool true) 1 1
  | int {seconds : Nat} (positive : 0 < seconds) : IsQuotient (.int seconds) seconds 1
  | real {significand : Nat} (exponent : Int) (positive : significand ≠ 0) :
    IsQuotient (.real (.finite false significand exponent)) (significand * twoTo exponent.toNat)
      (twoTo (-exponent).toNat)

/-- The time that a positive number of seconds takes in whole microseconds, however long it is. -/
def delay? : Datum → Option Duration
  | .bool true => some ⟨microsPerSecond⟩
  | .int seconds => if 0 < seconds then some ⟨seconds * microsPerSecond⟩ else none
  | .real seconds => seconds.delay?
  | _ => none

/-- A delay is a positive number of seconds, rounded to whole microseconds: off by half of one at
most, and by 2 ^ -33 of one more. -/
def RoundsTo (value : Datum) (delay : Duration) : Prop :=
  ∃ num den micros : Nat, value.IsQuotient num den ∧ delay = ⟨micros⟩ ∧
    RoundsTwice micros (num * microsPerSecond) den

variable {value : Datum} {delay : Duration}

/-- A whole number of seconds is a delay only if it is positive, and then it is that many
microseconds. -/
theorem delay?_int {seconds : Int} (said : (Datum.int seconds).delay? = some delay) :
    0 < seconds ∧ delay = ⟨seconds * microsPerSecond⟩ := by
  change (if 0 < seconds then _ else _) = _ at said
  split at said
  · next positive =>
    cases said
    exact ⟨positive, rfl⟩
  · cases said

/-- A binary number of seconds is a delay only if it is finite and positive, and then it is rounded
to microseconds. -/
theorem delay?_real {seconds : Binary64} (said : (Datum.real seconds).delay? = some delay) :
    ∃ significand exponent, seconds = .finite false significand exponent ∧ significand ≠ 0 ∧
      delay = ⟨Binary64.micros significand exponent⟩ := by
  change seconds.delay? = _ at said
  unfold Binary64.delay? at said
  split at said
  · next significand exponent =>
    split at said
    · cases said
    · next positive =>
      cases said
      exact ⟨significand, exponent, rfl, positive, rfl⟩
  · cases said

/-- A whole number of microseconds is none other when it is rounded. -/
theorem roundsTwice_whole (micros : Nat) : RoundsTwice micros micros 1 := by
  unfold RoundsTwice
  rw [Nat.mul_one]
  exact ⟨Nat.le_add_right _ _, Nat.le_add_right _ _⟩

/-- A delay is what its seconds round to. -/
theorem delay?_roundsTo (said : value.delay? = some delay) : value.RoundsTo delay := by
  cases value with
  | bool flag =>
    cases flag with
    | false => cases said
    | true =>
      cases said
      exact ⟨1, 1, microsPerSecond, .bool, rfl, roundsTwice_whole _⟩
  | int seconds =>
    obtain ⟨positive, rfl⟩ := delay?_int said
    obtain ⟨count, rfl⟩ := Int.eq_ofNat_of_zero_le (Int.le_of_lt positive)
    exact ⟨count, 1, count * microsPerSecond, .int (by omega), by simp, roundsTwice_whole _⟩
  | real seconds =>
    obtain ⟨significand, exponent, rfl, positive, rfl⟩ := delay?_real said
    exact ⟨_, _, _, .real exponent positive, rfl,
      Binary64.micros_roundsTwice significand exponent⟩
  | _ => cases said

/-- No delay leads back in time. -/
theorem RoundsTo.forward (rounds : value.RoundsTo delay) : 0 ≤ delay.micros := by
  obtain ⟨_, _, micros, _, rfl, _⟩ := rounds
  exact Int.natCast_nonneg micros

/-- A positive number of seconds is read as the duration that it takes. -/
theorem duration?_of_delay? (said : value.delay? = some delay) : value.truthy = true ∧
    value.duration? = some (Duration.ofMicros? delay.micros) := by
  cases value with
  | bool flag =>
    cases flag with
    | false => cases said
    | true =>
      cases said
      exact ⟨rfl, rfl⟩
  | int seconds =>
    obtain ⟨positive, rfl⟩ := delay?_int said
    exact ⟨bne_iff_ne.mpr (by omega), rfl⟩
  | real seconds =>
    obtain ⟨significand, exponent, rfl, positive, rfl⟩ := delay?_real said
    exact ⟨by simpa [truthy, Binary64.isZero] using positive, rfl⟩
  | _ => cases said

end Datum

/-- What takes less than a billion days, and does not go back in time, is a duration. -/
theorem Time.Duration.ofMicros?_forward {micros : Int} (forward : 0 ≤ micros) :
    ofMicros? micros = if micros < (maxDays + 1) * microsPerDay then .ok ⟨micros⟩
      else .error (.tooLong (micros / microsPerDay)) := by
  have low : -(maxDays * microsPerDay : Int) ≤ micros := by
    unfold maxDays microsPerDay microsPerSecond
    omega
  unfold ofMicros? inRange
  simp only [low, decide_true, Bool.true_and, decide_eq_true_eq]

namespace SettingsDraft

variable {value : Datum}

/-- A whole number passes the check of the settings unless it is zero or below. -/
theorem checkRetry_int (seconds : Int) : checkRetry (.int seconds) =
    if seconds ≤ 0 then .error (.mishap (.setting .retryNotPositive)) else .ok () := by
  unfold checkRetry
  by_cases low : seconds ≤ 0
  · simp [low]
  · simp [low]

/-- A binary number passes it unless it is zero or below. -/
theorem checkRetry_real (seconds : Binary64) : checkRetry (.real seconds) =
    if seconds.nonpositive then .error (.mishap (.setting .retryNotPositive)) else .ok () := by
  unfold checkRetry
  by_cases low : seconds.nonpositive = true
  · simp [low]
  · simp [low]

/-- NaN and infinity pass it. -/
theorem checkRetry_endless (endless : value.IsEndless) : checkRetry value = .ok () := by
  cases endless <;> rfl

/-- What is a delay passes it. -/
theorem checkRetry_timed {delay : Duration} (said : value.delay? = some delay) :
    checkRetry value = .ok () := by
  cases value with
  | bool flag =>
    cases flag with
    | false => cases said
    | true => rfl
  | int seconds =>
    have positive := (Datum.delay?_int said).1
    rw [checkRetry_int, if_neg (by omega)]
  | real seconds =>
    obtain ⟨significand, exponent, rfl, positive, _⟩ := Datum.delay?_real said
    rw [checkRetry_real, if_neg (by simpa [Binary64.nonpositive] using positive)]
  | _ => cases said

/-- What is zero or below does not. -/
theorem checkRetry_nonpositive (low : value.IsNonpositive) :
    checkRetry value = .error (.mishap (.setting .retryNotPositive)) := by
  cases low with
  | bool => rfl
  | int low => rw [checkRetry_int, if_pos low]
  | real low => rw [checkRetry_real, if_pos low]

/-- What can be given for the delay for retries: nothing, a number of one of three sorts, or no
number. -/
theorem checkRetry_cases (value : Datum) : value = .null ∨ value.IsEndless ∨
    (∃ delay, value.delay? = some delay) ∨ value.IsNonpositive ∨
      checkRetry value = .error (.mishap (.wrongType "not a number")) := by
  cases value with
  | null => exact .inl rfl
  | bool flag =>
    cases flag with
    | false => exact .inr (.inr (.inr (.inl .bool)))
    | true => exact .inr (.inr (.inl ⟨_, rfl⟩))
  | int seconds =>
    by_cases low : seconds ≤ 0
    · exact .inr (.inr (.inr (.inl (.int low))))
    · exact .inr (.inr (.inl ⟨_, if_pos (by omega)⟩))
  | real seconds =>
    match seconds with
    | .nan payload => exact .inr (.inl (.nan payload))
    | .infinity false => exact .inr (.inl .infinity)
    | .infinity true => exact .inr (.inr (.inr (.inl (.real rfl))))
    | .finite true significand exponent => exact .inr (.inr (.inr (.inl (.real rfl))))
    | .finite false significand exponent =>
      by_cases zero : significand = 0
      · exact .inr (.inr (.inr (.inl (.real (by simp [Binary64.nonpositive, zero])))))
      · exact .inr (.inr (.inl ⟨_, if_neg zero⟩))
  | _ => exact .inr (.inr (.inr (.inr rfl)))

/-- The check of the delay for retries accepts nothing, and all numbers that are not zero or less:
also NaN and infinity. -/
theorem checkRetry_ok_iff : checkRetry value = .ok () ↔
    value = .null ∨ value.IsEndless ∨ ∃ delay, value.delay? = some delay := by
  constructor
  · intro accepted
    rcases checkRetry_cases value with nothing | endless | timed | low | other
    · exact .inl nothing
    · exact .inr (.inl endless)
    · exact .inr (.inr timed)
    · cases (checkRetry_nonpositive low).symm.trans accepted
    · cases other.symm.trans accepted
  · rintro (rfl | endless | ⟨delay, said⟩)
    · rfl
    · exact checkRetry_endless endless
    · exact checkRetry_timed said

/-- It refuses for its sign exactly a number that is zero or less. -/
theorem checkRetry_notPositive_iff :
    checkRetry value = .error (.mishap (.setting .retryNotPositive)) ↔ value.IsNonpositive := by
  refine ⟨fun refused => ?_, checkRetry_nonpositive⟩
  rcases checkRetry_cases value with rfl | endless | ⟨delay, said⟩ | low | other
  · cases refused
  · cases (checkRetry_endless endless).symm.trans refused
  · cases (checkRetry_timed said).symm.trans refused
  · exact low
  · cases other.symm.trans refused

end SettingsDraft

end ObjectStorage
