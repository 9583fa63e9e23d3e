/-!
# Moments

A graph says when it was made: a moment of universal time, written as a date, a time and the offset
zero.  A moment is the number of microseconds since the first of January 1970.

## Main definitions

* `dateOfDay`: year, month and day, by the calendar of 400 years with 146097 days.
* `Moment.text`: the written form.
-/

namespace CodeAtlas.CommandLine

/-- The year, month and day of a day that is counted from the first of January 1970.  Years are taken
to begin in March, so that the day that leap years add is the last one of a year. -/
def dateOfDay (day : Nat) : Nat × Nat × Nat :=
  let shifted := day + 719468
  let cycle := shifted / 146097
  let dayOfCycle := shifted % 146097
  let yearOfCycle :=
    (dayOfCycle - dayOfCycle / 1460 + dayOfCycle / 36524 - dayOfCycle / 146096) / 365
  let dayOfYear := dayOfCycle - (365 * yearOfCycle + yearOfCycle / 4 - yearOfCycle / 100)
  let monthFromMarch := (5 * dayOfYear + 2) / 153
  let month := if monthFromMarch < 10 then monthFromMarch + 3 else monthFromMarch - 9
  let year := 400 * cycle + yearOfCycle + if month ≤ 2 then 1 else 0
  (year, month, dayOfYear - (153 * monthFromMarch + 2) / 5 + 1)

/-- A number with at least `width` digits. -/
def padded (width n : Nat) : String :=
  let digits := Nat.toDigits 10 n
  String.ofList (List.replicate (width - digits.length) '0' ++ digits)

/-- Microseconds since the first of January 1970, in universal time. -/
structure Moment where
  microseconds : Nat

/-- The written form.  A whole number of seconds is written without a fraction. -/
def Moment.text (m : Moment) : String :=
  let fraction := m.microseconds % 1000000
  let seconds := m.microseconds / 1000000
  let (year, month, day) := dateOfDay (seconds / 86400)
  let second := seconds % 86400
  padded 4 year ++ "-" ++ padded 2 month ++ "-" ++ padded 2 day
    ++ "T" ++ padded 2 (second / 3600) ++ ":" ++ padded 2 (second / 60 % 60)
    ++ ":" ++ padded 2 (second % 60)
    ++ (if fraction = 0 then "" else "." ++ padded 6 fraction) ++ "+00:00"

example : (Moment.mk 1704164645678901).text = "2024-01-02T03:04:05.678901+00:00" := by decide +kernel

example : dateOfDay 0 = (1970, 1, 1) ∧ dateOfDay 11016 = (2000, 2, 29)
    ∧ dateOfDay 11017 = (2000, 3, 1) := by decide

end CodeAtlas.CommandLine
