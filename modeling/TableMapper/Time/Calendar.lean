import TableMapper.Text.Digits

/-!
# The calendar

* `Calendar` is an instant in universal time as year, month, day and time of day.
* `Calendar.ofMicros` finds it for a number of microseconds since 1970, in the Gregorian calendar
  without a beginning.
* `Calendar.date`, `Calendar.time` and the functions after them write its parts.
-/

namespace TableMapper

/-- An instant, taken apart. -/
structure Calendar where
  year : Int
  month : Nat
  day : Nat
  hour : Nat
  minute : Nat
  second : Nat
  /-- The microseconds of the second; a million and more in a leap second. -/
  micros : Nat
  deriving DecidableEq

namespace Calendar

/-- Year, month and day of a day counted from 1970-01-01.  Years are taken to start in March, so
that the leap day ends a cycle of four, a hundred and four hundred years. -/
def dateOfDay (day : Int) : Int × Nat × Nat :=
  let shifted := day + 719468
  let era := shifted / 146097
  let d := (shifted % 146097).toNat
  let y := (d - d / 1460 + d / 36524 - d / 146096) / 365
  let dayOfYear := d - (365 * y + y / 4 - y / 100)
  let m := (5 * dayOfYear + 2) / 153
  let month := if m < 10 then m + 3 else m - 9
  ((y : Int) + era * 400 + (if month ≤ 2 then 1 else 0), month,
    dayOfYear - (153 * m + 2) / 5 + 1)

/-- The microseconds of a day. -/
def microsPerDay : Int := 86400000000

/-- The instant a number of microseconds after the start of 1970. -/
def ofMicros (us : Int) : Calendar :=
  let (year, month, day) := dateOfDay (us / microsPerDay)
  let t := (us % microsPerDay).toNat
  { year, month, day
    hour := t / 3600000000
    minute := t / 60000000 % 60
    second := t / 1000000 % 60
    micros := t % 1000000 }

/-- The instant a number of milliseconds after the start of 1970. -/
def ofMillis (ms : Int) : Calendar := ofMicros (ms * 1000)

/-- The years that instants are kept for. -/
def inRange (c : Calendar) : Bool := -262143 ≤ c.year && c.year ≤ 262142

/-- A year with four digits, and with a sign outside `0` to `9999`. -/
def yearText (y : Int) : String :=
  if 0 ≤ y ∧ y ≤ 9999 then Text.padded 4 y.toNat
  else (if y < 0 then "-" else "+") ++ Text.padded 4 y.natAbs

/-- The date, as in `2000-01-31`. -/
def date (c : Calendar) : String :=
  yearText c.year ++ "-" ++ Text.padded 2 c.month ++ "-" ++ Text.padded 2 c.day

/-- The fraction of the second: nothing, three digits or six. -/
def fraction (c : Calendar) : String :=
  if c.micros = 0 then ""
  else if c.micros % 1000 = 0 then "." ++ Text.padded 3 (c.micros / 1000)
  else "." ++ Text.padded 6 c.micros

/-- The time of day to the second. -/
def clock (c : Calendar) : String :=
  Text.padded 2 c.hour ++ ":" ++ Text.padded 2 c.minute ++ ":" ++ Text.padded 2 c.second

/-- The time of day, with a fraction when there is one. -/
def time (c : Calendar) : String := c.clock ++ c.fraction

/-- Date and time between which a blank stands. -/
def spaced (c : Calendar) : String := c.date ++ " " ++ c.time

/-- Date and time with the offset of universal time. -/
def rfc3339 (c : Calendar) : String := c.date ++ "T" ++ c.time ++ "+00:00"

end Calendar

end TableMapper
