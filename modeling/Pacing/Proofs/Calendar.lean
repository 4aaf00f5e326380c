import Mathlib.Tactic.IntervalCases
import Pacing.Civil.Date

/-!
# The calendar

The count of a date grows by one from each date to the next, so it is the number of days
that a calendar on the wall would show.  Every count is the count of exactly one date that
exists.  The date is found in years that begin with March: a place in the cycle of 400
years is a century, a group of four years, a year and a day, and the months from March on
have lengths that follow one rule, with the leap day behind the last of them.
-/

namespace Pacing.Civil

/-! ## Lengths of months and years -/

theorem isLeapYear_iff (year : Int) :
    isLeapYear year = true ↔ year % 4 = 0 ∧ (year % 100 ≠ 0 ∨ year % 400 = 0) := by
  simp [isLeapYear]

/-- The number of leap days of a year. -/
def leapDays (year : Int) : Nat :=
  (isLeapYear year).toNat

theorem leapDays_of_leap {year : Int} (fourth : year % 4 = 0)
    (kept : year % 100 ≠ 0 ∨ year % 400 = 0) : leapDays year = 1 := by
  unfold leapDays
  rw [(isLeapYear_iff year).mpr ⟨fourth, kept⟩]
  rfl

theorem leapYearsBefore_succ (year : Int) :
    leapYearsBefore (year + 1) = leapYearsBefore year + leapDays year := by
  unfold leapYearsBefore leapDays
  cases leap : isLeapYear year with
  | true =>
      obtain ⟨fourth, kept⟩ := (isLeapYear_iff year).mp leap
      rw [Bool.toNat_true]
      omega
  | false =>
      have common : ¬ (year % 4 = 0 ∧ (year % 100 ≠ 0 ∨ year % 400 = 0)) := by
        rw [← isLeapYear_iff, leap]
        exact Bool.false_ne_true
      rw [Bool.toNat_false]
      omega

theorem daysInMonth_february (year : Int) : daysInMonth year 2 = 28 + leapDays year := by
  unfold daysInMonth leapDays
  cases isLeapYear year with
  | true => rfl
  | false => rfl

/-- The months from March on begin on the days that one linear rule gives. -/
theorem daysInMonth_of_march (year : Int) {month : Nat} (least : 3 ≤ month)
    (greatest : month ≤ 12) :
    (153 * (month - 3) + 2) / 5 + daysInMonth year month = (153 * (month - 2) + 2) / 5 := by
  interval_cases month <;> rfl

theorem daysBeforeMonth_one (year : Int) : daysBeforeMonth year 1 = 0 := rfl

theorem daysBeforeMonth_succ (year : Int) {month : Nat} (positive : 1 ≤ month) :
    daysBeforeMonth year (month + 1) = daysBeforeMonth year month + daysInMonth year month := by
  unfold daysBeforeMonth
  rw [List.range_succ, List.drop_append_of_le_length (by simpa using positive),
    List.foldl_append]
  rfl

theorem daysBeforeMonth_two (year : Int) : daysBeforeMonth year 2 = 31 := rfl

theorem daysBeforeMonth_of_march (year : Int) {month : Nat} (least : 3 ≤ month)
    (greatest : month ≤ 13) :
    daysBeforeMonth year month = 59 + leapDays year + (153 * (month - 3) + 2) / 5 := by
  induction month, least using Nat.le_induction with
  | base =>
      rw [daysBeforeMonth_succ year (by decide), daysBeforeMonth_two, daysInMonth_february]
      omega
  | succ month least induction =>
      have length := daysInMonth_of_march year least (by omega)
      rw [daysBeforeMonth_succ year (by omega), induction (by omega)]
      omega

theorem daysBeforeMonth_thirteen (year : Int) :
    daysBeforeMonth year 13 = 365 + leapDays year := by
  rw [daysBeforeMonth_of_march year (by decide) (by decide)]
  omega

theorem daysBeforeMonth_mono (year : Int) {month later : Nat} (positive : 1 ≤ month)
    (notAfter : month ≤ later) : daysBeforeMonth year month ≤ daysBeforeMonth year later := by
  induction later, notAfter using Nat.le_induction with
  | base => exact Nat.le_refl _
  | succ later notAfter induction =>
      rw [daysBeforeMonth_succ year (positive.trans notAfter)]
      exact Nat.le_add_right_of_le induction

/-- The days from 1970-01-01 to the first day of a year. -/
def yearStart (year : Int) : Int :=
  365 * (year - 1970) + (leapYearsBefore year - leapYearsBefore 1970)

theorem yearStart_succ (year : Int) :
    yearStart (year + 1) = yearStart year + 365 + leapDays year := by
  unfold yearStart
  rw [leapYearsBefore_succ]
  omega

theorem yearStart_mono {year later : Int} (notAfter : year ≤ later) :
    yearStart year ≤ yearStart later := by
  induction later, notAfter using Int.leInduction with
  | base => exact Int.le_refl _
  | succ later notAfter induction =>
      rw [yearStart_succ]
      omega

namespace Date

/-! ## Counts -/

theorem toDays_eq (date : Date) :
    date.toDays = yearStart date.year + daysBeforeMonth date.year date.month +
      (date.day - 1) := rfl

/-- The date on the day after a date. -/
def next (date : Date) : Date :=
  if date.day < daysInMonth date.year date.month then { date with day := date.day + 1 }
  else if date.month < 12 then { date with month := date.month + 1, day := 1 }
  else { year := date.year + 1, month := 1, day := 1 }

theorem daysInMonth_pos (year : Int) (month : Nat) : 1 ≤ daysInMonth year month := by
  unfold daysInMonth
  split
  · split <;> decide
  all_goals decide

theorem daysInMonth_le (year : Int) (month : Nat) : daysInMonth year month ≤ 31 := by
  unfold daysInMonth
  split
  · split <;> decide
  all_goals decide

theorem exists_next {date : Date} (isDate : date.Exists) : date.next.Exists := by
  obtain ⟨monthPositive, monthFits, dayPositive, dayFits⟩ := isDate
  unfold next
  split
  · next inside => exact ⟨monthPositive, monthFits, Nat.le_add_left 1 _, inside⟩
  · split
    · next inside =>
        exact ⟨Nat.le_add_left 1 _, inside, Nat.le_refl 1, daysInMonth_pos _ _⟩
    · have january : 1 ≤ 12 := by decide
      exact ⟨Nat.le_refl 1, january, Nat.le_refl 1, daysInMonth_pos _ _⟩

theorem toDays_next {date : Date} (isDate : date.Exists) :
    date.next.toDays = date.toDays + 1 := by
  obtain ⟨monthPositive, monthFits, dayPositive, dayFits⟩ := isDate
  unfold next
  split
  · next inside =>
      rw [toDays_eq, toDays_eq]
      push_cast
      omega
  · next monthEnds =>
      have lastDay : date.day = daysInMonth date.year date.month := by omega
      have monthLater := daysBeforeMonth_succ date.year monthPositive
      split
      · next inside =>
          rw [toDays_eq, toDays_eq, monthLater, lastDay]
          push_cast
          omega
      · next yearEnds =>
          have december : date.month = 12 := by omega
          rw [december, daysBeforeMonth_thirteen] at monthLater
          rw [december] at lastDay
          rw [toDays_eq, toDays_eq, yearStart_succ, daysBeforeMonth_one, lastDay, december]
          push_cast
          omega

/-! ## The order of dates -/

/-- A date is before another one if its year is, or else its month, or else its day. -/
def Before (date other : Date) : Prop :=
  date.year < other.year ∨ date.year = other.year ∧
    (date.month < other.month ∨ date.month = other.month ∧ date.day < other.day)

section Order

variable {date other : Date}

theorem before_trichotomy (date other : Date) :
    date.Before other ∨ date = other ∨ other.Before date := by
  obtain ⟨year, month, day⟩ := date
  obtain ⟨otherYear, otherMonth, otherDay⟩ := other
  unfold Before
  simp only [mk.injEq]
  omega

theorem toDays_lt_monthEnd (isDate : date.Exists) :
    date.toDays < yearStart date.year + daysBeforeMonth date.year (date.month + 1) := by
  obtain ⟨monthPositive, -, -, dayFits⟩ := isDate
  rw [toDays_eq, daysBeforeMonth_succ date.year monthPositive]
  push_cast
  omega

theorem monthStart_le_toDays (isDate : date.Exists) :
    yearStart date.year + daysBeforeMonth date.year date.month ≤ date.toDays := by
  obtain ⟨-, -, dayPositive, -⟩ := isDate
  rw [toDays_eq]
  omega

theorem toDays_lt_yearStart (isDate : date.Exists) {year : Int} (before : date.year < year) :
    date.toDays < yearStart year := by
  have inMonth := toDays_lt_monthEnd isDate
  have inYear : daysBeforeMonth date.year (date.month + 1) ≤ daysBeforeMonth date.year 13 :=
    daysBeforeMonth_mono date.year (Nat.le_add_left 1 _) (Nat.succ_le_succ isDate.2.1)
  have later : yearStart (date.year + 1) ≤ yearStart year := yearStart_mono before
  rw [daysBeforeMonth_thirteen] at inYear
  rw [yearStart_succ] at later
  omega

theorem yearStart_le_toDays (isDate : date.Exists) {year : Int} (notAfter : year ≤ date.year) :
    yearStart year ≤ date.toDays := by
  have earlier := yearStart_mono notAfter
  have fromStart := monthStart_le_toDays isDate
  omega

theorem toDays_lt (isDate : date.Exists) (isOther : other.Exists)
    (before : date.Before other) : date.toDays < other.toDays := by
  rcases before with earlierYear | ⟨sameYear, earlierMonth | ⟨sameMonth, earlierDay⟩⟩
  · calc
      date.toDays < yearStart other.year := toDays_lt_yearStart isDate earlierYear
      _ ≤ other.toDays := yearStart_le_toDays isOther (Int.le_refl _)
  · have inMonth := toDays_lt_monthEnd isDate
    have fromStart := monthStart_le_toDays isOther
    have later : daysBeforeMonth date.year (date.month + 1) ≤
        daysBeforeMonth date.year other.month :=
      daysBeforeMonth_mono date.year (Nat.le_add_left 1 _) earlierMonth
    rw [← sameYear] at fromStart
    omega
  · rw [toDays_eq, toDays_eq, sameYear, sameMonth]
    omega

end Order

/-! ## Years that begin with March -/

/-- The date that lies a number of days after the first of March of a year, and before the
next one. -/
def ofMarch (year : Int) (days : Nat) : Date :=
  let monthFromMarch := (5 * days + 2) / 153
  let month := if monthFromMarch < 10 then monthFromMarch + 3 else monthFromMarch - 9
  { year := if month ≤ 2 then year + 1 else year
    month
    day := days - (153 * monthFromMarch + 2) / 5 + 1 }

section March

variable {year : Int} {days : Nat}

theorem ofMarch_cases (year : Int) (within : days ≤ 365) :
    (∃ month, 3 ≤ month ∧ month ≤ 12 ∧ (153 * (month - 3) + 2) / 5 ≤ days ∧
      days < (153 * (month - 2) + 2) / 5 ∧
      ofMarch year days = ⟨year, month, days - (153 * (month - 3) + 2) / 5 + 1⟩) ∨
    (306 ≤ days ∧ days ≤ 336 ∧ ofMarch year days = ⟨year + 1, 1, days - 306 + 1⟩) ∨
    (337 ≤ days ∧ ofMarch year days = ⟨year + 1, 2, days - 337 + 1⟩) := by
  obtain ⟨month, isMonth⟩ : ∃ month, month = (5 * days + 2) / 153 := ⟨_, rfl⟩
  unfold ofMarch
  dsimp only
  rw [← isMonth]
  by_cases inYear : month < 10
  · left
    refine ⟨month + 3, by omega, by omega, by omega, by omega, ?_⟩
    rw [if_pos inYear, if_neg (by omega), Nat.add_sub_cancel]
  · right
    obtain rfl | rfl : month = 10 ∨ month = 11 := by omega
    · exact .inl ⟨by omega, by omega, rfl⟩
    · exact .inr ⟨by omega, rfl⟩

theorem exists_ofMarch (within : days ≤ 364 + leapDays (year + 1)) :
    (ofMarch year days).Exists := by
  have leap : leapDays (year + 1) ≤ 1 := Bool.toNat_le _
  rcases ofMarch_cases year (show days ≤ 365 by omega) with
    ⟨month, least, greatest, begun, unfinished, isDate⟩ | ⟨begun, unfinished, isDate⟩ |
    ⟨begun, isDate⟩
  · have inYear : 1 ≤ month := by omega
    have inMonth : days - (153 * (month - 3) + 2) / 5 + 1 ≤ daysInMonth year month := by
      have length := daysInMonth_of_march year least greatest
      omega
    rw [isDate]
    exact ⟨inYear, greatest, Nat.le_add_left 1 _, inMonth⟩
  · have inYear : 1 ≤ 12 := by decide
    have inMonth : days - 306 + 1 ≤ 31 := by omega
    rw [isDate]
    exact ⟨Nat.le_refl 1, inYear, Nat.le_add_left 1 _, inMonth⟩
  · have inYear : 1 ≤ 2 ∧ 2 ≤ 12 := by decide
    have inMonth : days - 337 + 1 ≤ daysInMonth (year + 1) 2 := by
      rw [daysInMonth_february]
      omega
    rw [isDate]
    exact ⟨inYear.1, inYear.2, Nat.le_add_left 1 _, inMonth⟩

theorem toDays_ofMarch (within : days ≤ 364 + leapDays (year + 1)) :
    (ofMarch year days).toDays = yearStart year + 59 + leapDays year + days := by
  have leap : leapDays (year + 1) ≤ 1 := Bool.toNat_le _
  rcases ofMarch_cases year (show days ≤ 365 by omega) with
    ⟨month, least, greatest, begun, unfinished, isDate⟩ | ⟨begun, unfinished, isDate⟩ |
    ⟨begun, isDate⟩
  · rw [isDate, toDays_eq, daysBeforeMonth_of_march year least (by omega)]
    push_cast
    omega
  · rw [isDate, toDays_eq, yearStart_succ, daysBeforeMonth_one]
    push_cast
    omega
  · rw [isDate, toDays_eq, yearStart_succ, daysBeforeMonth_two]
    push_cast
    omega

end March

/-! ## Places in the cycle -/

/-- The year of the cycle of 400 years in which a day of the cycle lies. -/
def yearOfCycle (day : Nat) : Nat :=
  (day - day / 1460 + day / 36524 - day / 146096) / 365

/-- Where a day of the cycle lies: in which century, in which four years of it, in which
year of these, and how far behind the beginning of this year.  Only the last of four years
has a leap day, and the last year of a century only if the cycle ends with it. -/
structure Place (day century fours year rest : Nat) : Prop where
  century_le : century ≤ 3
  fours_le : fours ≤ 24
  year_le : year ≤ 3
  day_eq : day = 36524 * century + 1461 * fours + 365 * year + rest
  rest_le : rest ≤ 365
  leap : rest = 365 → year = 3 ∧ (fours = 24 → century = 3)

theorem exists_place {day : Nat} (inCycle : day < 146097) :
    ∃ century fours year rest, Place day century fours year rest := by
  let century := min (day / 36524) 3
  let ofCentury := day - 36524 * century
  let fours := min (ofCentury / 1461) 24
  let ofFours := ofCentury - 1461 * fours
  let year := min (ofFours / 365) 3
  have centuryBegun : 36524 * century ≤ day := by omega
  have inCentury : ofCentury ≤ 36524 ∧ (ofCentury = 36524 → century = 3) := by omega
  have foursBegun : 1461 * fours ≤ ofCentury := by omega
  have inFours : ofFours ≤ 1460 := by omega
  have yearBegun : 365 * year ≤ ofFours := by omega
  have inYear : ofFours - 365 * year ≤ 365 := by omega
  refine ⟨century, fours, year, ofFours - 365 * year, Nat.min_le_right _ _,
    Nat.min_le_right _ _, Nat.min_le_right _ _, by omega, inYear, by omega⟩

section Place

variable {day century fours year rest : Nat}

theorem Place.centuries (place : Place day century fours year rest) :
    day / 36524 = century + day / 146096 := by
  obtain ⟨centuryFits, foursFits, yearFits, isDay, restFits, leap⟩ := place
  obtain ⟨ofCentury, isOfCentury⟩ :
      ∃ ofCentury, ofCentury = 1461 * fours + 365 * year + rest := ⟨_, rfl⟩
  have inCentury : ofCentury ≤ 36524 ∧ (ofCentury = 36524 → century = 3) := by omega
  have split : day = 36524 * century + ofCentury := by omega
  clear isDay leap isOfCentury
  omega

/-- A year can be counted one too late, but not by more than the days that are left. -/
theorem Place.years (place : Place day century fours year rest) :
    ∃ early, day / 1460 = 25 * century + fours + early ∧ early ≤ rest ∧ rest < 365 + early := by
  obtain ⟨centuryFits, foursFits, yearFits, isDay, restFits, leap⟩ := place
  refine ⟨(24 * century + fours + 365 * year + rest) / 1460, ?_, ?_⟩
  · clear leap restFits
    omega
  · clear isDay
    omega

theorem Place.yearOfCycle_eq (place : Place day century fours year rest) :
    yearOfCycle day = 100 * century + 4 * fours + year := by
  obtain ⟨early, years, notAfter, near⟩ := place.years
  have whole (notAfter : early ≤ rest) :
      36524 * century + 1461 * fours + 365 * year + rest - (25 * century + fours + early) +
        century = 365 * (100 * century + 4 * fours + year) + (rest - early) := by
    omega
  have left : (rest - early) / 365 = 0 := Nat.div_eq_of_lt (by omega)
  unfold yearOfCycle
  rw [place.centuries, years, ← Nat.add_assoc, Nat.add_sub_cancel, place.day_eq,
    whole notAfter, Nat.mul_add_div (by decide), left, Nat.add_zero]

end Place

theorem ofDays_eq (days : Int) :
    let shifted := days + daysToEpoch
    let day := (shifted % daysInCycle).toNat
    ofDays days =
      ofMarch (shifted / daysInCycle * 400 + yearOfCycle day)
        (day - (365 * yearOfCycle day + yearOfCycle day / 4 - yearOfCycle day / 100)) := rfl

/-- A count falls on a day of a year of a cycle. -/
theorem ofDays_cases (days : Int) :
    ∃ (cycle : Int) (year rest : Nat), year ≤ 399 ∧
      rest ≤ 364 + leapDays (cycle * 400 + year + 1) ∧
      days + 719468 = 146097 * cycle + (365 * year + year / 4 - year / 100 : Nat) + rest ∧
      ofDays days = ofMarch (cycle * 400 + year) rest := by
  let cycle := (days + 719468) / 146097
  let day := ((days + 719468) % 146097).toNat
  have split : days + 719468 = 146097 * cycle + day := by omega
  obtain ⟨century, fours, year, rest, place⟩ := exists_place (show day < 146097 by omega)
  have isYear := place.yearOfCycle_eq
  obtain ⟨centuryFits, foursFits, yearFits, isDay, restFits, leap⟩ := place
  have centuries : yearOfCycle day / 100 = century := by omega
  have yearsOfFour : yearOfCycle day / 4 = 25 * century + fours := by omega
  have start : 365 * yearOfCycle day + yearOfCycle day / 4 - yearOfCycle day / 100 =
      36524 * century + 1461 * fours + 365 * year := by
    omega
  have restOfDay : day - (36524 * century + 1461 * fours + 365 * year) = rest := by omega
  refine ⟨cycle, yearOfCycle day, rest, by omega, ?_, by omega, ?_⟩
  · by_cases last : rest = 365
    · obtain ⟨isFourth, endsCycle⟩ := leap last
      have isLeap : leapDays (cycle * 400 + yearOfCycle day + 1) = 1 := by
        apply leapDays_of_leap
        · omega
        · omega
      omega
    · omega
  · rw [← restOfDay, ← start]
    exact ofDays_eq days

theorem exists_ofDays (days : Int) : (ofDays days).Exists := by
  obtain ⟨cycle, year, rest, -, within, -, isDate⟩ := ofDays_cases days
  rw [isDate]
  exact exists_ofMarch within

theorem marchStart_of_cycle (cycle : Int) {year : Nat} (inCycle : year ≤ 399) :
    yearStart (cycle * 400 + year) + 59 + leapDays (cycle * 400 + year) =
      146097 * cycle + (365 * year + year / 4 - year / 100 : Nat) - 719468 := by
  have next := yearStart_succ (cycle * 400 + year)
  unfold yearStart leapYearsBefore at next
  unfold yearStart leapYearsBefore
  omega

theorem toDays_ofDays (days : Int) : (ofDays days).toDays = days := by
  obtain ⟨cycle, year, rest, inCycle, within, count, isDate⟩ := ofDays_cases days
  have start := marchStart_of_cycle cycle inCycle
  rw [isDate, toDays_ofMarch within]
  omega

end Date

end Pacing.Civil
