import ScriptGateway.Decimal.Natural
import ScriptGateway.Time.Duration
/-!
# Calendar time

A log line carries its time as `YYYY-MM-DDTHH:MM:SS.mmmZ`, twenty-four characters in the
proleptic Gregorian calendar.

* `Civil.ofDuration` finds the date by taking off whole years, then whole months.
* `Civil.toChars` writes the fields with fixed widths. Years are counted modulo 65536 and
  written by their last four digits.
* `timestamp` is the text of a duration.
-/

namespace ScriptGateway

/-- The leap years of the Gregorian calendar. -/
def isLeapYear (year : Nat) : Bool :=
  (year % 4 == 0 && year % 100 != 0) || year % 400 == 0

/-- The days of a year. -/
def daysInYear (year : Nat) : Nat :=
  if isLeapYear year then 366 else 365

/-- The days of each month of a year. -/
def monthLengths (year : Nat) : List Nat :=
  [31, if isLeapYear year then 29 else 28, 31, 30, 31, 30, 31, 31, 30, 31, 30, 31]

/-- Whole years taken off a count of days, from `year` on; years follow each other modulo
65536. -/
def takeYears (year days : Nat) : Nat × Nat :=
  if daysInYear year ≤ days then
    takeYears ((year + 1) % 65536) (days - daysInYear year)
  else
    (year, days)
termination_by days
decreasing_by
  have : 365 ≤ daysInYear year := by unfold daysInYear; split <;> omega
  omega

/-- Whole months taken off a count of days, from `month` on. -/
def takeMonths (month days : Nat) : List Nat → Nat × Nat
  | [] => (month, days)
  | length :: rest =>
    if days < length then (month, days) else takeMonths (month + 1) (days - length) rest

/-- A date and a time of day. -/
structure Civil where
  year : Nat
  month : Nat
  day : Nat
  hour : Nat
  minute : Nat
  second : Nat
  milli : Nat
  deriving DecidableEq, Repr

namespace Civil

/-- The date and time a duration after the start of 1970. -/
def ofDuration (d : Duration) : Civil :=
  let secondOfDay := d.seconds % 86400
  let (year, dayOfYear) := takeYears 1970 (d.seconds / 86400)
  let (month, dayOfMonth) := takeMonths 1 dayOfYear (monthLengths year)
  { year, month
    day := dayOfMonth + 1
    hour := secondOfDay / 3600
    minute := secondOfDay % 3600 / 60
    second := secondOfDay % 60
    milli := d.nanos / 1000000 }

/-- The fields with their marks between them. -/
def toChars (c : Civil) : List Char :=
  Decimal.padded 4 c.year ++ '-' :: Decimal.padded 2 c.month ++ '-' :: Decimal.padded 2 c.day
    ++ 'T' :: Decimal.padded 2 c.hour ++ ':' :: Decimal.padded 2 c.minute
    ++ ':' :: Decimal.padded 2 c.second ++ '.' :: Decimal.padded 3 c.milli ++ ['Z']

end Civil

/-- The text of a time given as a duration after the start of 1970. -/
def timestamp (d : Duration) : String :=
  String.ofList (Civil.ofDuration d).toChars

end ScriptGateway
