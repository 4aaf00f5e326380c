/-!
# Dates of the Gregorian calendar

Dates of the proleptic Gregorian calendar and the days counted from
1970-01-01.  The count of a date follows the rules of the calendar: leap years
and the lengths of the months.  The date of a count is found through the
calendar's cycle of 400 years, in years that begin with March, so that the
leap day is the last of its year.
-/

namespace Pacing.Civil

structure Date where
  year : Int
  month : Nat
  day : Nat
  deriving DecidableEq, Repr

def isLeapYear (year : Int) : Bool :=
  year % 4 = 0 && (year % 100 ≠ 0 || year % 400 = 0)

def daysInMonth (year : Int) (month : Nat) : Nat :=
  match month with
  | 2 => if isLeapYear year then 29 else 28
  | 4 | 6 | 9 | 11 => 30
  | _ => 31

/-- The number of leap years from year 1 up to the year before a given one;
it is negative for years before that. -/
def leapYearsBefore (year : Int) : Int :=
  (year - 1) / 4 - (year - 1) / 100 + (year - 1) / 400

/-- The number of days in the months before a given one. -/
def daysBeforeMonth (year : Int) (month : Nat) : Nat :=
  ((List.range month).drop 1).foldl (fun days earlier => days + daysInMonth year earlier) 0

namespace Date

/-- The dates that exist. -/
def Exists (date : Date) : Prop :=
  1 ≤ date.month ∧ date.month ≤ 12 ∧
    1 ≤ date.day ∧ date.day ≤ daysInMonth date.year date.month

instance (date : Date) : Decidable date.Exists :=
  inferInstanceAs (Decidable (_ ∧ _))

/-- The days from 1970-01-01 to a date. -/
def toDays (date : Date) : Int :=
  365 * (date.year - 1970) + (leapYearsBefore date.year - leapYearsBefore 1970) +
    daysBeforeMonth date.year date.month + (date.day - 1)

/-- The days from 0000-03-01 to 1970-01-01. -/
def daysToEpoch : Int := 719468

/-- The days of 400 years. -/
def daysInCycle : Int := 146097

/-- The date that lies a number of days after 1970-01-01. -/
def ofDays (days : Int) : Date :=
  let shifted := days + daysToEpoch
  let cycle := shifted / daysInCycle
  let dayOfCycle := (shifted % daysInCycle).toNat
  let yearOfCycle :=
    (dayOfCycle - dayOfCycle / 1460 + dayOfCycle / 36524 - dayOfCycle / 146096) / 365
  let dayOfYear := dayOfCycle - (365 * yearOfCycle + yearOfCycle / 4 - yearOfCycle / 100)
  let monthFromMarch := (5 * dayOfYear + 2) / 153
  let month := if monthFromMarch < 10 then monthFromMarch + 3 else monthFromMarch - 9
  let year : Int := cycle * 400 + yearOfCycle
  { year := if month ≤ 2 then year + 1 else year
    month
    day := dayOfYear - (153 * monthFromMarch + 2) / 5 + 1 }

end Date

end Pacing.Civil
