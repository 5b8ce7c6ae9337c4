import ObjectStorage.Number.Binary64
import ObjectStorage.Text.Digit

/-!
# Durations

Spans of time in whole microseconds, of a billion days at most in either direction. A number of
seconds becomes the nearest duration, a tie going to the even microsecond (`ofReal?`).
-/

namespace ObjectStorage.Time

open Number Text

def microsPerSecond : Nat := 1000000

def microsPerDay : Nat := 86400 * microsPerSecond

/-- A span of time in microseconds. -/
structure Duration where
  micros : Int
  deriving DecidableEq, Repr

/-- Why a number of seconds is no duration. What is too long is known by its days. -/
inductive DurationProblem
  | notANumber
  | infinite
  | tooLong (days : Int)
  deriving DecidableEq, Repr

namespace Duration

def maxDays : Nat := 999999999

/-- A duration keeps within the longest ones, counting its days downwards. -/
def inRange (micros : Int) : Bool :=
  -(maxDays * microsPerDay : Int) ≤ micros && micros < ((maxDays + 1) * microsPerDay : Int)

def ofMicros? (micros : Int) : Except DurationProblem Duration :=
  if inRange micros then .ok ⟨micros⟩ else .error (.tooLong (micros / microsPerDay))

/-- The most days that a text gives the number of. -/
def shownDays : Nat := 2147483647

/-- The text for days that are too many, or too many in the other direction. -/
def tooLongText (days : Int) : Text :=
  if -(shownDays : Int) - 1 ≤ days ∧ days ≤ shownDays then
    "days=" ++ intText days ++ "; must have magnitude <= " ++ natText maxDays
  else "Python int too large to convert to C int"

/-- The duration of a whole number of seconds. -/
def ofSeconds? (seconds : Int) : Except DurationProblem Duration :=
  ofMicros? (seconds * microsPerSecond)

/-- The microseconds in what a finite number has beyond its whole part. That part times a million
is rounded to a floating-point number first and to an integer then. -/
def fractionMicros (significand : Nat) (exponent : Int) : Nat :=
  let product := Binary64.nearest false
    (Binary64.fraction significand exponent * microsPerSecond) (twoTo (-exponent).toNat)
  match product with
  | .finite _ m e => roundDiv (m * twoTo e.toNat) (twoTo (-e).toNat)
  | _ => 0

/-- The duration of a floating-point number of seconds. -/
def ofReal? : Binary64 → Except DurationProblem Duration
  | .nan _ => .error .notANumber
  | .infinity _ => .error .infinite
  | .finite negative m e =>
    let magnitude := Binary64.wholePart m e * microsPerSecond + fractionMicros m e
    ofMicros? (Binary64.signed negative magnitude)

/-- A duration in seconds, as the nearest floating-point number. -/
def seconds (d : Duration) : Binary64 :=
  if d.micros = 0 then .zero false
  else .nearest (d.micros < 0) d.micros.natAbs microsPerSecond

def isZero (d : Duration) : Bool :=
  d.micros == 0

example : (ofReal? (.nearest false 3 2)).toOption = some ⟨1500000⟩ := by decide +kernel
example : ofSeconds? (86400 * 1000000000) = .error (.tooLong 1000000000) := rfl

end Duration

end ObjectStorage.Time
