import ObjectStorage.Text.Digit
import ObjectStorage.Time.Duration

/-!
# Instants

Points of time in the years 1 to 9999, in whole microseconds of universal time, and their texts in
the calendar. Adding a duration either stays within these years or fails (`Instant.add?`).
-/

namespace ObjectStorage.Time

open Text

/-- The days before the first day of a year, counted from the first day of year 1. -/
def daysBeforeYear (year : Nat) : Nat :=
  let full := year - 1
  full * 365 + full / 4 - full / 100 + full / 400

/-- A year with a twenty-ninth of February. -/
def isLeapYear (year : Nat) : Bool :=
  year % 4 == 0 && (year % 100 != 0 || year % 400 == 0)

def monthLengths (year : Nat) : List Nat :=
  [31, if isLeapYear year then 29 else 28, 31, 30, 31, 30, 31, 31, 30, 31, 30, 31]

/-- A day of the calendar. -/
structure Date where
  year : Nat
  month : Nat
  day : Nat
  deriving DecidableEq, Repr

/-- The days from the first day of year 1 to a day. -/
def Date.dayNumber (date : Date) : Nat :=
  daysBeforeYear date.year +
    ((monthLengths date.year).take (date.month - 1)).foldl (· + ·) 0 + (date.day - 1)

/-- The year that a day number falls into. The estimate is off by one at most. -/
def yearOfDay (dayNumber : Nat) : Nat :=
  let estimate := dayNumber * 400 / 146097 + 1
  if dayNumber < daysBeforeYear estimate then estimate - 1
  else if daysBeforeYear (estimate + 1) ≤ dayNumber then estimate + 1
  else estimate

/-- The month and the day of a day number within a year, over the months still ahead. -/
def monthOfDay (month dayOfYear : Nat) : List Nat → Nat × Nat
  | [] => (month, dayOfYear + 1)
  | length :: rest =>
    if dayOfYear < length then (month, dayOfYear + 1)
    else monthOfDay (month + 1) (dayOfYear - length) rest

def Date.ofDayNumber (dayNumber : Nat) : Date :=
  let year := yearOfDay dayNumber
  let (month, day) := monthOfDay 1 (dayNumber - daysBeforeYear year) (monthLengths year)
  ⟨year, month, day⟩

/-- The part of the calendar or of the clock that there is not. -/
inductive CalendarProblem
  | year (given : Int)
  | month
  | day
  | hour
  | minute
  | second
  | micro
  deriving DecidableEq, Repr

def CalendarProblem.text : CalendarProblem → Text
  | .year given => "year " ++ intText given ++ " is out of range"
  | .month => "month must be in 1..12"
  | .day => "day is out of range for month"
  | .hour => "hour must be in 0..23"
  | .minute => "minute must be in 0..59"
  | .second => "second must be in 0..59"
  | .micro => "microsecond must be in 0..999999"

/-- The microseconds of all the years that instants lie in. -/
def microsOfAllYears : Nat := 3652059 * microsPerDay

/-- A point of time, as the microseconds since the beginning of year 1. -/
structure Instant where
  micros : Nat
  inYears : micros < microsOfAllYears
  deriving DecidableEq, Repr

namespace Instant

def beginning : Instant := ⟨0, by decide⟩

/-- The instant of a count of microseconds, if it lies in the years of instants. -/
def ofMicros? (micros : Int) : Option Instant :=
  if h : micros.toNat < microsOfAllYears ∧ 0 ≤ micros then some ⟨micros.toNat, h.1⟩ else none

/-- The instant of a day and of the microseconds since its midnight. -/
def ofDate? (date : Date) (microsOfDay : Nat) : Option Instant :=
  ofMicros? (date.dayNumber * microsPerDay + microsOfDay : Nat)

/-- The instant of parts of the calendar and of the clock, each of which must be one that there
is. -/
def ofParts (year month day hour minute second micro : Int) : Except CalendarProblem Instant := do
  let within := fun (part last : Int) => 0 ≤ part && part ≤ last
  let length : Int := (monthLengths year.toNat).getD (month.toNat - 1) 0
  if year < 1 || 9999 < year then throw (.year year)
  if month < 1 || 12 < month then throw .month
  if day < 1 || length < day then throw .day
  if !within hour 23 then throw .hour
  if !within minute 59 then throw .minute
  if !within second 59 then throw .second
  if !within micro 999999 then throw .micro
  let ofDay := ((hour * 60 + minute) * 60 + second) * microsPerSecond + micro
  match ofDate? ⟨year.toNat, month.toNat, day.toNat⟩ ofDay.toNat with
  | some t => return t
  | none => throw (.year year)

def add? (t : Instant) (d : Duration) : Option Instant :=
  ofMicros? (t.micros + d.micros)

def later (s t : Instant) : Instant :=
  if s.micros < t.micros then t else s

/-- The parts of an instant in the calendar. -/
structure Parts where
  date : Date
  hour : Nat
  minute : Nat
  second : Nat
  micro : Nat

def parts (t : Instant) : Parts :=
  let ofDay := t.micros % microsPerDay
  let seconds := ofDay / microsPerSecond
  ⟨.ofDayNumber (t.micros / microsPerDay), seconds / 3600, seconds / 60 % 60, seconds % 60,
    ofDay % microsPerSecond⟩

/-- Date and time of an instant with a separator between them. The fraction is left out when it is
zero, and the offset from universal time ends the text. -/
def textWith (separator : Char) (t : Instant) : Text :=
  let p := t.parts
  let date := paddedDigits 4 p.date.year ++ '-' :: paddedDigits 2 p.date.month ++
    '-' :: paddedDigits 2 p.date.day
  let time := paddedDigits 2 p.hour ++ ':' :: paddedDigits 2 p.minute ++
    ':' :: paddedDigits 2 p.second
  let fraction := if p.micro = 0 then [] else '.' :: paddedDigits 6 p.micro
  .ofChars (date ++ separator :: time ++ fraction ++ ['+', '0', '0', ':', '0', '0'])

def isoText : Instant → Text :=
  textWith 'T'

/-- The arguments that describe an instant: seconds stand only with a part of the time below
minutes, and microseconds only when there are some. -/
def describedParts (t : Instant) : List Nat :=
  let p := t.parts
  let short := [p.date.year, p.date.month, p.date.day, p.hour, p.minute]
  if p.micro ≠ 0 then short ++ [p.second, p.micro]
  else if p.second ≠ 0 then short ++ [p.second]
  else short

example : Date.ofDayNumber (Date.dayNumber ⟨2024, 2, 29⟩) = ⟨2024, 2, 29⟩ := by decide
example : (ofDate? ⟨9999, 12, 31⟩ (microsPerDay - 1)).isSome := by decide
example : (ofParts 2023 2 29 0 0 0 0).toOption = none := by decide
example : (ofDate? ⟨9999, 12, 31⟩ microsPerDay).isSome = false := by decide

end Instant

end ObjectStorage.Time
