/-!
# Points in time

A timestamp is a civil date and a time of day in UTC. A second numbered 60 is kept as the second 59
with a thousand million extra nanoseconds. Dates are counted in days from the first of March of the
year 0 of the calendar extended backwards, so that a leap day ends its year.
-/

namespace RichChat

/-- A point in time in UTC. -/
structure Timestamp where
  year : Int
  month : Nat
  day : Nat
  hour : Nat
  minute : Nat
  second : Nat
  /-- From a thousand million on inside a leap second. -/
  nanosecond : Nat
  deriving DecidableEq, Inhabited

namespace Timestamp

def isLeapYear (year : Int) : Bool :=
  year % 4 == 0 && (year % 100 != 0 || year % 400 == 0)

def daysInMonth (year : Int) (month : Nat) : Nat :=
  if month = 2 then (if isLeapYear year then 29 else 28)
  else if month = 4 || month = 6 || month = 9 || month = 11 then 30
  else 31

/-- The day of the year, counted from 1. -/
def dayOfYear (year : Int) (month day : Nat) : Nat :=
  (List.range (month - 1)).foldl (fun n m => n + daysInMonth year (m + 1)) day

/-- Days since the first of January of the year 1970. -/
def daysOfCivil (year : Int) (month day : Nat) : Int :=
  let y := if month ≤ 2 then year - 1 else year
  let era := y.fdiv 400
  let yearOfEra := y - era * 400
  let shifted : Int := if month ≤ 2 then month + 9 else month - 3
  let dayOfYear := (153 * shifted + 2) / 5 + day - 1
  let dayOfEra := yearOfEra * 365 + yearOfEra / 4 - yearOfEra / 100 + dayOfYear
  era * 146097 + dayOfEra - 719468

/-- The date that is a number of days after the first of January of the year 1970. -/
def civilOfDays (days : Int) : Int × Nat × Nat :=
  let z := days + 719468
  let era := z.fdiv 146097
  let dayOfEra := z - era * 146097
  let yearOfEra := (dayOfEra - dayOfEra / 1460 + dayOfEra / 36524 - dayOfEra / 146096) / 365
  let dayOfYear := dayOfEra - (365 * yearOfEra + yearOfEra / 4 - yearOfEra / 100)
  let shifted := (5 * dayOfYear + 2) / 153
  let day := dayOfYear - (153 * shifted + 2) / 5 + 1
  let month := if shifted < 10 then shifted + 3 else shifted - 9
  let year := yearOfEra + era * 400 + (if month ≤ 2 then 1 else 0)
  (year, month.toNat, day.toNat)

/-- The years that can be told: the range of a signed date of 32 bits with nine for the day. -/
def inRange (year : Int) : Bool := -262143 ≤ year && year ≤ 262142

/-- The same point in time, given in a zone `offset` seconds ahead of UTC. -/
def ofLocal? (t : Timestamp) (offset : Int) : Option Timestamp :=
  let seconds : Int :=
    daysOfCivil t.year t.month t.day * 86400 + t.hour * 3600 + t.minute * 60 + t.second - offset
  let days := seconds.fdiv 86400
  let rest := (seconds - days * 86400).toNat
  let (year, month, day) := civilOfDays days
  if inRange year then
    some ⟨year, month, day, rest / 3600, rest / 60 % 60, rest % 60, t.nanosecond⟩
  else none

/-- Seconds since the beginning of 1970. -/
def unixSeconds (t : Timestamp) : Int :=
  daysOfCivil t.year t.month t.day * 86400 + t.hour * 3600 + t.minute * 60 + t.second

/-- The day of the week, Monday being 0. -/
def weekday (t : Timestamp) : Nat :=
  ((daysOfCivil t.year t.month t.day + 3) % 7).toNat

end Timestamp

end RichChat
