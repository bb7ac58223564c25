import Semihosting.Text.Numeral

/-!
# Time stamps

A logged event may carry the time, to the second, in coordinated universal time.

## Main definitions

* `Stamp.civil` — the calendar date of a day
* `Stamp.render` — a time as in `2024-02-29T12:00:00Z`
-/

namespace Semihosting.Stamp

/-- Year, month and day of the Gregorian calendar, `days` days after the first of January 1970.
The computation counts years from March, so that a leap day is the last day of its year, in eras of
400 years. -/
def civil (days : Nat) : Nat × Nat × Nat :=
  let fromMarch := days + 719468
  let era := fromMarch / 146097
  let dayOfEra := fromMarch % 146097
  let yearOfEra := (dayOfEra - dayOfEra / 1460 + dayOfEra / 36524 - dayOfEra / 146096) / 365
  let dayOfYear := dayOfEra - (365 * yearOfEra + yearOfEra / 4 - yearOfEra / 100)
  let monthFromMarch := (5 * dayOfYear + 2) / 153
  let day := dayOfYear - (153 * monthFromMarch + 2) / 5 + 1
  let month := if monthFromMarch < 10 then monthFromMarch + 3 else monthFromMarch - 9
  (400 * era + yearOfEra + (if month ≤ 2 then 1 else 0), month, day)

example : civil 0 = (1970, 1, 1) := rfl

example : civil 19782 = (2024, 2, 29) := rfl

/-- A number in at least two digits. -/
def two (n : Nat) : String := (if n < 10 then "0" else "") ++ Numeral.decimal n

/-- A time given in seconds since the beginning of 1970. -/
def render (seconds : Nat) : String :=
  let (year, month, day) := civil (seconds / 86400)
  let clock := seconds % 86400
  Numeral.decimal year ++ "-" ++ two month ++ "-" ++ two day ++ "T" ++ two (clock / 3600) ++ ":" ++
    two (clock / 60 % 60) ++ ":" ++ two (clock % 60) ++ "Z"

end Semihosting.Stamp
