/-!
# The proleptic Gregorian calendar

Dates are counted in days from 1970-01-01, which is day 0; days before it are negative. The
conversions are the usual era-based ones: a 400-year era has 146097 days, and counting months
from March puts the leap day at the end of the year.
-/

namespace Novel.Time

/-- A calendar date. Months and days count from 1. -/
structure Date where
  year : Int
  month : Nat
  day : Nat
  deriving DecidableEq, Repr, Inhabited

/-- Years divisible by 4 are leap years, except centuries not divisible by 400. -/
def isLeapYear (y : Int) : Bool := y % 4 == 0 && (y % 100 != 0 || y % 400 == 0)

/-- Number of days in a month of a year. -/
def daysInMonth (y : Int) (m : Nat) : Nat :=
  match m with
  | 2 => if isLeapYear y then 29 else 28
  | 4 | 6 | 9 | 11 => 30
  | _ => 31

def Date.valid (d : Date) : Bool :=
  1 ≤ d.month && d.month ≤ 12 && 1 ≤ d.day && d.day ≤ daysInMonth d.year d.month

/-- Days from 1970-01-01 to a date. -/
def Date.toDays (d : Date) : Int :=
  let y : Int := if d.month ≤ 2 then d.year - 1 else d.year
  let era := y / 400
  let yoe := y - era * 400
  let mp : Int := if d.month > 2 then d.month - 3 else d.month + 9
  let doy := (153 * mp + 2) / 5 + d.day - 1
  let doe := yoe * 365 + yoe / 4 - yoe / 100 + doy
  era * 146097 + doe - 719468

/-- The date a number of days after 1970-01-01. -/
def Date.ofDays (z : Int) : Date :=
  let z := z + 719468
  let era := z / 146097
  let doe := z - era * 146097
  let yoe := (doe - doe / 1460 + doe / 36524 - doe / 146096) / 365
  let doy := doe - (365 * yoe + yoe / 4 - yoe / 100)
  let mp := (5 * doy + 2) / 153
  let day := doy - (153 * mp + 2) / 5 + 1
  let month := if mp < 10 then mp + 3 else mp - 9
  let year := yoe + era * 400 + (if month ≤ 2 then 1 else 0)
  { year := year, month := month.toNat, day := day.toNat }

example : Date.toDays ⟨1970, 1, 1⟩ = 0 := by decide

example : Date.ofDays 19782 = ⟨2024, 2, 29⟩ := by decide

/-!
## Instants

An instant in UTC: a day (counted from 1970-01-01), the second of that day and a count of
nanoseconds. The nanoseconds may reach up to two seconds: a count of a second or more marks a
leap second, which is shown as second 60 of its minute.

Dates supported run from the year -262143 to the year 262142.
-/

/-- An instant in UTC. -/
structure Instant where
  day : Int
  second : Nat
  nano : Nat
  deriving DecidableEq, Repr, Inhabited

def minYear : Int := -262143

def maxYear : Int := 262142

namespace Instant

def epoch : Instant := ⟨0, 0, 0⟩

/-- The instant of a local date and time, given the local offset from UTC in seconds. The
leap second, if any, is kept. -/
def ofLocal (d : Date) (secondOfDay nano : Nat) (offset : Int) : Instant :=
  let total := d.toDays * 86400 + secondOfDay - offset
  ⟨total / 86400, (total % 86400).toNat, nano⟩

def date (t : Instant) : Date := Date.ofDays t.day

def inRange (t : Instant) : Bool := minYear ≤ t.date.year && t.date.year ≤ maxYear

end Instant

end Novel.Time
