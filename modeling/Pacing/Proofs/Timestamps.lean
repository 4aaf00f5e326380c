import Mathlib.Logic.Function.Iterate
import Pacing.Callback
import Pacing.Proofs.Calendar
import Pacing.Proofs.Numerals

/-!
# The texts of slots

The text that a workflow is told names a moment that exists, and the seconds that pass from
the beginning of 1970 up to this moment are the slot.  A text is read without regard to how
it was written: by the digits between its separators, as many as each field has, and by the
sign of the year.  Where years have four digits, the text that comes first is the time that
comes first.
-/

namespace Pacing.Civil

namespace Moment

/-! ## Counting seconds -/

/-- The beginning of 1970. -/
def epoch : Moment := ⟨⟨1970, 1, 1⟩, 0, 0, 0⟩

/-- The moment one second after a moment. -/
def next (moment : Moment) : Moment :=
  if moment.second < 59 then { moment with second := moment.second + 1 }
  else if moment.minute < 59 then { moment with minute := moment.minute + 1, second := 0 }
  else if moment.hour < 23 then { moment with hour := moment.hour + 1, minute := 0, second := 0 }
  else { date := moment.date.next, hour := 0, minute := 0, second := 0 }

/-- So many seconds pass from one moment to another; they are negative if the other one is
earlier. -/
inductive Passes : Moment → Moment → Int → Prop where
  | forth (moment : Moment) (seconds : Nat) : Passes moment (next^[seconds] moment) seconds
  | back (moment : Moment) (seconds : Nat) : Passes (next^[seconds] moment) moment (-seconds)

section Counting

variable {moment : Moment}

theorem exists_next (isMoment : moment.Exists) : moment.next.Exists := by
  obtain ⟨isDate, hourFits, minuteFits, secondFits⟩ := isMoment
  unfold next
  split
  · next inside => exact ⟨isDate, hourFits, minuteFits, Nat.succ_lt_succ inside⟩
  · split
    · next inside => exact ⟨isDate, hourFits, Nat.succ_lt_succ inside, Nat.zero_lt_succ _⟩
    · split
      · next inside =>
          exact ⟨isDate, Nat.succ_lt_succ inside, Nat.zero_lt_succ _, Nat.zero_lt_succ _⟩
      · exact ⟨Date.exists_next isDate, Nat.zero_lt_succ _, Nat.zero_lt_succ _,
          Nat.zero_lt_succ _⟩

theorem toSeconds_next (isMoment : moment.Exists) :
    moment.next.toSeconds = moment.toSeconds + 1 := by
  obtain ⟨isDate, hourFits, minuteFits, secondFits⟩ := isMoment
  have nextDay := Date.toDays_next isDate
  unfold next
  split
  · unfold toSeconds
    dsimp only
    omega
  · split
    · unfold toSeconds
      dsimp only
      omega
    · split
      · unfold toSeconds
        dsimp only
        omega
      · unfold toSeconds secondsInDay
        dsimp only
        omega

theorem exists_iterate (isMoment : moment.Exists) (seconds : Nat) :
    (next^[seconds] moment).Exists := by
  induction seconds with
  | zero => exact isMoment
  | succ seconds induction =>
      rw [Function.iterate_succ_apply']
      exact exists_next induction

theorem toSeconds_iterate (isMoment : moment.Exists) (seconds : Nat) :
    (next^[seconds] moment).toSeconds = moment.toSeconds + seconds := by
  induction seconds with
  | zero => simp
  | succ seconds induction =>
      rw [Function.iterate_succ_apply', toSeconds_next (exists_iterate isMoment seconds),
        induction]
      omega

/-! ## The order of moments -/

/-- A moment is before another one if its date is, or else its hour, and so on. -/
def Before (moment other : Moment) : Prop :=
  moment.date.Before other.date ∨ moment.date = other.date ∧
    (moment.hour < other.hour ∨ moment.hour = other.hour ∧
      (moment.minute < other.minute ∨ moment.minute = other.minute ∧
        moment.second < other.second))

variable {other : Moment}

theorem before_trichotomy (moment other : Moment) :
    moment.Before other ∨ moment = other ∨ other.Before moment := by
  obtain ⟨date, hour, minute, second⟩ := moment
  obtain ⟨otherDate, otherHour, otherMinute, otherSecond⟩ := other
  unfold Before
  rcases Date.before_trichotomy date otherDate with before | rfl | after
  · exact .inl (.inl before)
  · simp only [mk.injEq, true_and]
    omega
  · exact .inr (.inr (.inl after))

theorem toSeconds_lt (isMoment : moment.Exists) (isOther : other.Exists)
    (before : moment.Before other) : moment.toSeconds < other.toSeconds := by
  obtain ⟨isDate, hourFits, minuteFits, secondFits⟩ := isMoment
  obtain ⟨isOtherDate, otherHourFits, otherMinuteFits, otherSecondFits⟩ := isOther
  unfold toSeconds secondsInDay
  rcases before with earlier | ⟨sameDate, later⟩
  · have days := Date.toDays_lt isDate isOtherDate earlier
    omega
  · rw [sameDate]
    omega

theorem toSeconds_injective (isMoment : moment.Exists) (isOther : other.Exists)
    (same : moment.toSeconds = other.toSeconds) : moment = other := by
  rcases before_trichotomy moment other with before | equal | after
  · exact absurd same (toSeconds_lt isMoment isOther before).ne
  · exact equal
  · exact absurd same (toSeconds_lt isOther isMoment after).ne'

theorem exists_epoch : epoch.Exists := by decide

theorem toSeconds_epoch : epoch.toSeconds = 0 := by decide

/-- Since no two moments have the same count, counting from one moment arrives at the
other. -/
theorem passes_epoch (isMoment : moment.Exists) : Passes epoch moment moment.toSeconds := by
  rcases Int.le_total 0 moment.toSeconds with later | earlier
  · obtain ⟨seconds, isCount⟩ := Int.eq_ofNat_of_zero_le later
    have arrives : next^[seconds] epoch = moment := by
      apply toSeconds_injective (exists_iterate exists_epoch seconds) isMoment
      rw [toSeconds_iterate exists_epoch, toSeconds_epoch, Int.zero_add, isCount]
    rw [isCount, ← arrives]
    exact .forth epoch seconds
  · obtain ⟨seconds, isCount⟩ := Int.exists_eq_neg_ofNat earlier
    have arrives : next^[seconds] moment = epoch := by
      apply toSeconds_injective (exists_iterate isMoment seconds) exists_epoch
      rw [toSeconds_iterate isMoment, toSeconds_epoch, isCount, Int.add_left_neg]
    rw [isCount, ← arrives]
    exact .back moment seconds

end Counting

theorem exists_ofSeconds (seconds : Int) : (ofSeconds seconds).Exists := by
  refine ⟨Date.exists_ofDays _, ?_, ?_, ?_⟩
  · change (seconds % 86400).toNat / 3600 < 24
    omega
  · exact Nat.mod_lt _ (by decide)
  · exact Nat.mod_lt _ (by decide)

theorem toSeconds_ofSeconds (seconds : Int) : (ofSeconds seconds).toSeconds = seconds := by
  unfold toSeconds ofSeconds secondsInDay
  dsimp only
  rw [Date.toDays_ofDays]
  omega

/-! ## Texts of moments -/

/-- Two digits that denote a number. -/
structure TwoDigits (characters : List Char) (value : Nat) : Prop where
  denote : Text.DigitsDenote characters value
  length_eq : characters.length = 2

/-- A year as it is written: with four digits, or else with a sign and with four digits or
more. -/
inductive YearDenotes : List Char → Int → Prop where
  | plain {characters : List Char} {value : Nat}
      (denote : Text.DigitsDenote characters value) (four : characters.length = 4) :
      YearDenotes characters value
  | later {characters : List Char} {value : Nat}
      (denote : Text.DigitsDenote characters value) (filled : 4 ≤ characters.length)
      (late : 9999 < value) : YearDenotes ('+' :: characters) value
  | earlier {characters : List Char} {value : Nat}
      (denote : Text.DigitsDenote characters value) (filled : 4 ≤ characters.length)
      (early : 0 < value) : YearDenotes ('-' :: characters) (-value)

/-- The fields behind the year: two digits behind each separator, and a `Z` at the end. -/
inductive FieldsDenote : List Char → List Char → List Nat → Prop where
  | last : FieldsDenote [] ['Z'] []
  | field {separator : Char} {separators digits rest : List Char} {value : Nat}
      {values : List Nat} (isField : TwoDigits digits value)
      (behind : FieldsDenote separators rest values) :
      FieldsDenote (separator :: separators) (separator :: (digits ++ rest)) (value :: values)

/-- The parts of a moment behind its year. -/
def fields (moment : Moment) : List Nat :=
  [moment.date.month, moment.date.day, moment.hour, moment.minute, moment.second]

/-- A text `YYYY-MM-DDThh:mm:ssZ` names the moment with the year and the fields that its
digits denote. -/
structure Names (text : String) (moment : Moment) : Prop where
  exists_parts : ∃ year behind, text.toList = year ++ behind ∧
    YearDenotes year moment.date.year ∧
    FieldsDenote ['-', '-', 'T', ':', ':'] behind moment.fields

/-- The year can be written with four digits. -/
def HasShortYear (moment : Moment) : Prop :=
  0 ≤ moment.date.year ∧ moment.date.year ≤ 9999

instance (moment : Moment) : Decidable moment.HasShortYear :=
  inferInstanceAs (Decidable (_ ∧ _))

section Texts

variable {text otherText : String} {moment other : Moment}
  {characters others separators : List Char} {values different : List Nat}

theorem twoDigits_paddedDigits {value : Nat} (fits : value < 100) :
    TwoDigits (Text.paddedDigits 2 value) value :=
  ⟨Text.digitsDenote_paddedDigits 2 value, Text.length_paddedDigits (by decide) fits⟩

theorem yearDenotes_yearChars (year : Int) : YearDenotes (yearChars year) year := by
  unfold yearChars
  split
  · next plain =>
      have denotes : YearDenotes _ (year.toNat : Int) :=
        .plain (Text.digitsDenote_paddedDigits 4 year.toNat)
          (Text.length_paddedDigits (by decide) (by omega))
      rwa [Int.toNat_of_nonneg plain.1] at denotes
  · next signed =>
      split
      · next early =>
          have denotes : YearDenotes _ (-(year.natAbs : Int)) :=
            .earlier (Text.digitsDenote_paddedDigits 4 year.natAbs)
              (Text.le_length_paddedDigits 4 year.natAbs) (by omega)
          rwa [show -(year.natAbs : Int) = year by omega] at denotes
      · next late =>
          have denotes : YearDenotes _ (year.natAbs : Int) :=
            .later (Text.digitsDenote_paddedDigits 4 year.natAbs)
              (Text.le_length_paddedDigits 4 year.natAbs) (by omega)
          rwa [show (year.natAbs : Int) = year by omega] at denotes

/-- The text of a moment names this moment. -/
theorem names_text (isMoment : moment.Exists) : Names moment.text moment := by
  obtain ⟨⟨-, monthFits, -, dayFits⟩, hourFits, minuteFits, secondFits⟩ := isMoment
  have monthLength := Date.daysInMonth_le moment.date.year moment.date.month
  have areFields : FieldsDenote ['-', '-', 'T', ':', ':'] _ moment.fields :=
    .field (twoDigits_paddedDigits (by omega)) <|
    .field (twoDigits_paddedDigits (by omega)) <|
    .field (twoDigits_paddedDigits (by omega)) <|
    .field (twoDigits_paddedDigits (by omega)) <|
    .field (twoDigits_paddedDigits (by omega)) .last
  refine ⟨_, _, ?_, yearDenotes_yearChars moment.date.year, areFields⟩
  unfold text chars
  simp

theorem YearDenotes.unique {year different : Int} (isYear : YearDenotes characters year)
    (again : YearDenotes characters different) : year = different := by
  cases isYear with
  | plain denote =>
      cases again with
      | plain redenote => rw [denote.unique redenote]
      | later => exact absurd denote.head_isDigit (by decide)
      | earlier => exact absurd denote.head_isDigit (by decide)
  | later denote =>
      cases again with
      | plain redenote => exact absurd redenote.head_isDigit (by decide)
      | later redenote => rw [denote.unique redenote]
  | earlier denote =>
      cases again with
      | plain redenote => exact absurd redenote.head_isDigit (by decide)
      | earlier redenote => rw [denote.unique redenote]

theorem YearDenotes.plain_of_short {year : Int} (isYear : YearDenotes characters year)
    (short : 0 ≤ year ∧ year ≤ 9999) :
    ∃ value : Nat, Text.DigitsDenote characters value ∧ characters.length = 4 ∧
      year = value := by
  cases isYear with
  | plain denote four => exact ⟨_, denote, four, rfl⟩
  | later denote filled late => omega
  | earlier denote filled early => omega

theorem FieldsDenote.length_eq (areFields : FieldsDenote separators characters values) :
    characters.length = 3 * separators.length + 1 := by
  induction areFields with
  | last => rfl
  | field isField behind induction =>
      simp only [List.length_cons, List.length_append, isField.length_eq, induction]
      omega

theorem FieldsDenote.unique (areFields : FieldsDenote separators characters values)
    (again : FieldsDenote separators characters different) : values = different := by
  induction areFields generalizing different with
  | last =>
      cases again with
      | last => rfl
  | @field separator separators digits rest value values isField behind induction =>
      generalize written : separator :: (digits ++ rest) = characters at again
      cases again with
      | field isOther otherBehind =>
          have same := isField.length_eq.trans isOther.length_eq.symm
          obtain ⟨rfl, rfl⟩ := List.append_inj (List.cons.inj written).2 same
          rw [isField.denote.unique isOther.denote, induction otherBehind]

/-- By induction on the fields: the first one in which the texts differ is the first one in
which the moments differ. -/
theorem FieldsDenote.lt_of_lt (areFields : FieldsDenote separators characters values)
    (areOthers : FieldsDenote separators others different) (less : characters < others) :
    values < different := by
  induction areFields generalizing others different with
  | last =>
      cases areOthers with
      | last => exact absurd less (List.lt_irrefl _)
  | field isField behind induction =>
      cases areOthers with
      | field isOther otherBehind =>
          have same := isField.length_eq.trans isOther.length_eq.symm
          rcases List.cons_lt_cons_iff.mp less with absurdly | ⟨-, lessFields⟩
          · exact absurd absurdly (Char.lt_irrefl _)
          · rcases Text.lt_cases_of_append_lt_append same lessFields with earlier | ⟨rfl, later⟩
            · exact List.cons_lt_cons_iff.mpr
                (.inl (isField.denote.lt_of_lt isOther.denote same earlier))
            · exact List.cons_lt_cons_iff.mpr
                (.inr ⟨isField.denote.unique isOther.denote, induction otherBehind later⟩)

/-- A text names only one moment: what is behind the year has a fixed length. -/
theorem Names.unique (names : Names text moment) (again : Names text other) :
    moment = other := by
  obtain ⟨year, behind, isText, isYear, areFields⟩ := names
  obtain ⟨otherYear, otherBehind, isOther, isOtherYear, areOthers⟩ := again
  have same := areFields.length_eq.trans areOthers.length_eq.symm
  obtain ⟨rfl, rfl⟩ := List.append_inj' (isText.symm.trans isOther) same
  have sameFields := areFields.unique areOthers
  have sameYear := isYear.unique isOtherYear
  obtain ⟨⟨year, month, day⟩, hour, minute, second⟩ := moment
  obtain ⟨⟨otherYear, otherMonth, otherDay⟩, otherHour, otherMinute, otherSecond⟩ := other
  obtain rfl : year = otherYear := sameYear
  cases sameFields
  rfl

theorem before_of_fields_lt (sameYear : moment.date.year = other.date.year)
    (less : moment.fields < other.fields) : moment.Before other := by
  obtain ⟨⟨year, month, day⟩, hour, minute, second⟩ := moment
  obtain ⟨⟨otherYear, otherMonth, otherDay⟩, otherHour, otherMinute, otherSecond⟩ := other
  obtain rfl : year = otherYear := sameYear
  unfold fields at less
  unfold Before Date.Before
  simp only [List.cons_lt_cons_iff, List.lt_irrefl, Date.mk.injEq, true_and, and_false,
    or_false] at less ⊢
  omega

/-- Where years have four digits, the text that comes first names the moment that comes
first. -/
theorem Names.before_of_lt (names : Names text moment) (namesOther : Names otherText other)
    (short : moment.HasShortYear) (otherShort : other.HasShortYear) (less : text < otherText) :
    moment.Before other := by
  obtain ⟨year, behind, isText, isYear, areFields⟩ := names
  obtain ⟨otherYear, otherBehind, isOther, isOtherYear, areOthers⟩ := namesOther
  obtain ⟨value, denote, length, isValue⟩ := isYear.plain_of_short short
  obtain ⟨different, again, otherLength, isDifferent⟩ := isOtherYear.plain_of_short otherShort
  have same := length.trans otherLength.symm
  rw [String.lt_iff, isText, isOther] at less
  rcases Text.lt_cases_of_append_lt_append same less with earlier | ⟨rfl, later⟩
  · have before := denote.lt_of_lt again same earlier
    exact .inl (.inl (by omega))
  · exact before_of_fields_lt (isYear.unique isOtherYear) (areFields.lt_of_lt areOthers later)

end Texts

/-! ## Years -/

theorem toSeconds_lt_iff_year_lt {moment : Moment} (isMoment : moment.Exists) (year : Int) :
    moment.toSeconds < yearStart year * 86400 ↔ moment.date.year < year := by
  obtain ⟨isDate, hourFits, minuteFits, secondFits⟩ := isMoment
  unfold toSeconds secondsInDay
  constructor
  · intro before
    by_contra notBefore
    have started := Date.yearStart_le_toDays isDate (Int.not_lt.mp notBefore)
    omega
  · intro before
    have ended := Date.toDays_lt_yearStart isDate before
    omega

/-- The seconds that have a text are those of the years from -262143 to 262142. -/
theorem year_fits_iff (seconds : Int) :
    -262143 ≤ (ofSeconds seconds).date.year ∧ (ofSeconds seconds).date.year ≤ 262142 ↔
      leastSecond ≤ seconds ∧ seconds ≤ greatestSecond := by
  have least := toSeconds_lt_iff_year_lt (exists_ofSeconds seconds) (-262143)
  have greatest := toSeconds_lt_iff_year_lt (exists_ofSeconds seconds) 262143
  have first : yearStart (-262143) * 86400 = leastSecond := by decide
  have last : yearStart 262143 * 86400 = greatestSecond + 1 := by decide
  rw [toSeconds_ofSeconds] at least greatest
  omega

end Moment

end Pacing.Civil

namespace Pacing.Timestamps

open Civil (Moment)

/-- The slots that have a text. -/
def InCalendar (slot : Int64) : Prop :=
  -8334601228800 ≤ slot.toInt ∧ slot.toInt ≤ 8210266876799

/-- What a text tells of its slot: there is one moment that it names, it is a moment that
exists, and the seconds from the beginning of 1970 up to it are the slot. -/
structure Tells (text : String) (slot : Int64) (moment : Moment) : Prop where
  names : moment.Names text
  only : ∀ other : Moment, other.Names text → other = moment
  isMoment : moment.Exists
  passes : Moment.Passes .epoch moment slot.toInt
  count : moment.toSeconds = slot.toInt
  year_ge : -262143 ≤ moment.date.year
  year_le : moment.date.year ≤ 262142

section

variable {slot other : Int64} {text otherText : String} {moment otherMoment : Moment}

theorem timestamp_of_inCalendar (inside : InCalendar slot) :
    plannedTimestamp slot = .ok (Moment.ofSeconds slot.toInt).text := by
  have hasText : Moment.textOfSeconds? slot.toInt = some (Moment.ofSeconds slot.toInt).text :=
    if_pos inside
  unfold plannedTimestamp
  rw [hasText]

theorem timestamp_of_beyond (beyond : ¬InCalendar slot) :
    plannedTimestamp slot = .error (.invalidTimestamp slot) := by
  have noText : Moment.textOfSeconds? slot.toInt = none := if_neg beyond
  unfold plannedTimestamp
  rw [noText]

theorem timestamp_eq_ok_iff :
    plannedTimestamp slot = .ok text ↔
      InCalendar slot ∧ (Moment.ofSeconds slot.toInt).text = text := by
  by_cases inside : InCalendar slot
  · simp [timestamp_of_inCalendar inside, inside]
  · simp [timestamp_of_beyond inside, inside]

theorem tells_of_inCalendar (inside : InCalendar slot) :
    Tells (Moment.ofSeconds slot.toInt).text slot (Moment.ofSeconds slot.toInt) := by
  have isMoment := Moment.exists_ofSeconds slot.toInt
  have count := Moment.toSeconds_ofSeconds slot.toInt
  have years := (Moment.year_fits_iff slot.toInt).mpr inside
  refine ⟨Moment.names_text isMoment, ?_, isMoment, ?_, count, years.1, years.2⟩
  · intro other names
    exact names.unique (Moment.names_text isMoment)
  · have passes := Moment.passes_epoch isMoment
    rwa [count] at passes

theorem tells_of_timestamp (succeeds : plannedTimestamp slot = .ok text) :
    Tells text slot (Moment.ofSeconds slot.toInt) := by
  obtain ⟨inside, rfl⟩ := timestamp_eq_ok_iff.mp succeeds
  exact tells_of_inCalendar inside

theorem Tells.slot_unique (tells : Tells text slot moment)
    (tellsOther : Tells text other otherMoment) : slot = other := by
  obtain rfl := tells.only otherMoment tellsOther.names
  exact Int64.toInt.inj (tells.count.symm.trans tellsOther.count)

theorem Tells.slot_lt (tells : Tells text slot moment)
    (tellsOther : Tells otherText other otherMoment)
    (before : moment.Before otherMoment) : slot < other := by
  rw [Int64.lt_iff_toInt_lt, ← tells.count, ← tellsOther.count]
  exact Moment.toSeconds_lt tells.isMoment tellsOther.isMoment before

/-- Where years have four digits, the order of the texts is the order of the slots. -/
theorem Tells.lt_iff (tells : Tells text slot moment)
    (tellsOther : Tells otherText other otherMoment)
    (short : moment.HasShortYear) (otherShort : otherMoment.HasShortYear) :
    text < otherText ↔ slot < other := by
  constructor
  · intro less
    exact tells.slot_lt tellsOther
      (tells.names.before_of_lt tellsOther.names short otherShort less)
  · intro earlier
    by_contra notLess
    rcases Std.le_iff_lt_or_eq.mp (String.not_lt.mp notLess) with greater | same
    · have later := tellsOther.slot_lt tells
        (tellsOther.names.before_of_lt tells.names otherShort short greater)
      exact absurd (Int64.lt_trans earlier later) Int64.lt_irrefl
    · subst same
      exact absurd (tells.slot_unique tellsOther ▸ earlier) Int64.lt_irrefl

end

/-- A slot has a text just if it lies in the calendar, and the text tells the slot: it names
a single moment, and so many seconds after the beginning of 1970. -/
theorem timestamp_denotes_slot (slot : Int64) :
    ((∃ text, plannedTimestamp slot = .ok text) ↔ InCalendar slot) ∧
    (¬InCalendar slot → plannedTimestamp slot = .error (.invalidTimestamp slot)) ∧
    ∀ text, plannedTimestamp slot = .ok text →
      ∃ moment, Tells text slot moment ∧
        ∀ other otherText, plannedTimestamp other = .ok otherText →
          (slot ≠ other → text ≠ otherText) ∧
          ∀ otherMoment : Moment, otherMoment.Names otherText →
            moment.HasShortYear → otherMoment.HasShortYear →
            (text < otherText ↔ slot < other) := by
  refine ⟨⟨?_, ?_⟩, timestamp_of_beyond, ?_⟩
  · rintro ⟨text, succeeds⟩
    exact (timestamp_eq_ok_iff.mp succeeds).1
  · intro inside
    exact ⟨_, timestamp_of_inCalendar inside⟩
  · intro text succeeds
    have tells := tells_of_timestamp succeeds
    refine ⟨_, tells, ?_⟩
    intro other otherText otherSucceeds
    have tellsOther := tells_of_timestamp otherSucceeds
    refine ⟨?_, ?_⟩
    · rintro different rfl
      exact different (tells.slot_unique tellsOther)
    · intro otherMoment names short otherShort
      obtain rfl := tellsOther.only otherMoment names
      exact tells.lt_iff tellsOther short otherShort

/-- The leap day of 2000 begins one second after the day before has ended, and its text
comes next. -/
theorem leap_day_follows :
    plannedTimestamp 951782399 = .ok "2000-02-28T23:59:59Z" ∧
      plannedTimestamp 951782400 = .ok "2000-02-29T00:00:00Z" ∧
      "2000-02-28T23:59:59Z" < "2000-02-29T00:00:00Z" := by
  have evening : plannedTimestamp 951782399 = .ok "2000-02-28T23:59:59Z" := by decide
  have midnight : plannedTimestamp 951782400 = .ok "2000-02-29T00:00:00Z" := by decide
  have isText : (Moment.mk ⟨2000, 2, 28⟩ 23 59 59).text = "2000-02-28T23:59:59Z" := by decide
  have isOther : (Moment.mk ⟨2000, 2, 29⟩ 0 0 0).text = "2000-02-29T00:00:00Z" := by decide
  have names : (Moment.mk ⟨2000, 2, 28⟩ 23 59 59).Names "2000-02-28T23:59:59Z" :=
    isText ▸ Moment.names_text (by decide)
  have namesOther : (Moment.mk ⟨2000, 2, 29⟩ 0 0 0).Names "2000-02-29T00:00:00Z" :=
    isOther ▸ Moment.names_text (by decide)
  obtain ⟨moment, tells, others⟩ := (timestamp_denotes_slot 951782399).2.2 _ evening
  obtain rfl := tells.only _ names
  have order := (others _ _ midnight).2 _ namesOther (by decide) (by decide)
  exact ⟨evening, midnight, order.mpr (by decide)⟩

end Pacing.Timestamps
