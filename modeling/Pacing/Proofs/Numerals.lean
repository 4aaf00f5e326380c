import Mathlib.Data.List.TakeWhile
import Mathlib.Tactic.Ring
import Pacing.Text.Numeral

/-!
# Numerals

A text denotes a value if it consists of a sign, which may be missing, and of digits.
Reading moves away from zero with every digit, so a value that is in range at the last
digit has been in range all the way, and one that has left the range does not come back.
So a text is read exactly if it denotes a value of the range, and the numeral of a value
is read as this value.
-/

namespace Pacing.Text

/-- The two directions in which digits move a value. -/
inductive Direction : Int → Prop where
  | up : Direction 1
  | down : Direction (-1)

theorem IntegerRange.Contains.of_le {range : IntegerRange} {sign : Int}
    (direction : Direction sign) {near far : Nat} (nearer : near ≤ far)
    (zero : range.Contains 0) (contained : range.Contains (sign * far)) :
    range.Contains (sign * near) := by
  obtain ⟨atLeast, atMost⟩ := contained
  obtain ⟨zeroAtLeast, zeroAtMost⟩ := zero
  cases direction with
  | up => constructor <;> omega
  | down => constructor <;> omega

theorem le_ofDigitChars (digits : List Char) (value : Nat) :
    value ≤ Nat.ofDigitChars 10 digits value := by
  rw [Nat.ofDigitChars_eq_ofDigitChars_zero]
  have positive : 0 < 10 ^ digits.length := Nat.pow_pos (by decide)
  have scaled : value ≤ 10 ^ digits.length * value :=
    Nat.le_mul_of_pos_left value positive
  omega

/-- By induction on the digits, since each of them leaves a value that is nearer to
zero than the last one is. -/
theorem readDigits_append {range : IntegerRange} {sign : Int}
    (direction : Direction sign) (zero : range.Contains 0) {characters : List Char}
    (areDigits : ∀ character ∈ characters, character.isDigit = true) (value : Nat)
    (contained : range.Contains (sign * Nat.ofDigitChars 10 characters value))
    (behind : List Char) :
    readDigits range sign (sign * value) (characters ++ behind) =
      readDigits range sign (sign * Nat.ofDigitChars 10 characters value) behind := by
  induction characters generalizing value with
  | nil => simp
  | cons character rest induction =>
      rw [Nat.ofDigitChars_cons] at contained ⊢
      obtain ⟨isDigit, restDigits⟩ := List.forall_mem_cons.mp areDigits
      let next := 10 * value + digitValue character
      have moved : sign * value * 10 + sign * digitValue character = sign * next := by
        push_cast [next]
        ring
      have inRange : range.Contains (sign * next) :=
        .of_le direction (le_ofDigitChars rest next) zero contained
      have notTooLarge : ¬ range.greatest < sign * next := Int.not_lt.mpr inRange.2
      have notTooSmall : ¬ sign * next < range.least := Int.not_lt.mpr inRange.1
      rw [List.cons_append, readDigits, if_pos isDigit, moved, if_neg notTooLarge,
        if_neg notTooSmall]
      exact induction restDigits next contained

theorem readDigits_of_digits {range : IntegerRange} {sign : Int}
    (direction : Direction sign) (zero : range.Contains 0) {characters : List Char}
    (areDigits : ∀ character ∈ characters, character.isDigit = true) (value : Nat)
    (contained : range.Contains (sign * Nat.ofDigitChars 10 characters value)) :
    readDigits range sign (sign * value) characters =
      .ok (sign * Nat.ofDigitChars 10 characters value) := by
  have read := readDigits_append direction zero areDigits value contained []
  rwa [List.append_nil, readDigits_nil] at read

/-- Digits that leave the range stop the reading, whatever is behind them: by induction on
them, as before. -/
theorem readDigits_beyond {range : IntegerRange} {sign : Int} (direction : Direction sign)
    {characters : List Char}
    (areDigits : ∀ character ∈ characters, character.isDigit = true) (value : Nat)
    (contained : range.Contains (sign * value))
    (beyond : ¬ range.Contains (sign * Nat.ofDigitChars 10 characters value))
    (behind : List Char) :
    readDigits range sign (sign * value) (characters ++ behind) =
      .error (if sign < 0 then .tooSmall else .tooLarge) := by
  induction characters generalizing value with
  | nil => exact absurd contained beyond
  | cons character rest induction =>
      rw [Nat.ofDigitChars_cons] at beyond
      obtain ⟨isDigit, restDigits⟩ := List.forall_mem_cons.mp areDigits
      let next := 10 * value + digitValue character
      have moved : sign * value * 10 + sign * digitValue character = sign * next := by
        push_cast [next]
        ring
      have farther : value ≤ next := by omega
      obtain ⟨atLeast, atMost⟩ := contained
      rw [List.cons_append, readDigits, if_pos isDigit, moved]
      dsimp only
      split
      · next tooLarge =>
          cases direction with
          | up => rfl
          | down => omega
      · next notTooLarge =>
          split
          · next tooSmall =>
              cases direction with
              | up => omega
              | down => rfl
          · next notTooSmall =>
              have inRange : range.Contains (sign * next) :=
                ⟨Int.not_lt.mp notTooSmall, Int.not_lt.mp notTooLarge⟩
              exact induction restDigits next inRange beyond

/-- Decimal digits, and the number that they denote. -/
structure DigitsDenote (characters : List Char) (value : Nat) : Prop where
  areDigits : ∀ character ∈ characters, character.isDigit = true
  denoted : Nat.ofDigitChars 10 characters 0 = value

theorem digitsDenote_digits (value : Nat) : DigitsDenote (digits value) value :=
  ⟨fun _ member => Nat.isDigit_of_mem_toDigits (by decide) (by decide) member,
    Nat.ofDigitChars_ten_toDigits⟩

theorem readDigits_digits {range : IntegerRange} {sign : Int}
    (direction : Direction sign) (zero : range.Contains 0) (value : Nat)
    (contained : range.Contains (sign * value)) :
    readDigits range sign 0 (digits value) = .ok (sign * value) := by
  obtain ⟨areDigits, denoted⟩ := digitsDenote_digits value
  have read := readDigits_of_digits direction zero areDigits 0 (by rwa [denoted])
  rwa [denoted, Int.natCast_zero, Int.mul_zero] at read

theorem digits_eq_cons (value : Nat) :
    ∃ first rest, digits value = first :: rest ∧ first.isDigit = true := by
  cases written : digits value with
  | nil => exact absurd written Nat.toDigits_ne_nil
  | cons first rest =>
      refine ⟨first, rest, rfl, ?_⟩
      have member : first ∈ Nat.toDigits 10 value := by
        rw [← digits, written]
        exact List.mem_cons_self
      exact Nat.isDigit_of_mem_toDigits (by decide) (by decide) member

theorem readInteger_bare (range : IntegerRange) {text : String} {first : Char}
    {rest : List Char} (written : text.toList = first :: rest) (noPlus : first ≠ '+')
    (noMinus : first ≠ '-') :
    readInteger range text = readDigits range 1 0 (first :: rest) := by
  unfold readInteger
  rw [written]
  split <;> simp_all

theorem readInteger_digits (range : IntegerRange) {text : String} {first : Char}
    {rest : List Char} (written : text.toList = first :: rest)
    (isDigit : first.isDigit = true) :
    readInteger range text = readDigits range 1 0 (first :: rest) := by
  apply readInteger_bare range written
  · rintro rfl
    cases isDigit
  · rintro rfl
    cases isDigit

theorem readInteger_minus {range : IntegerRange} (negative : range.least < 0)
    {text : String} {first : Char} {rest : List Char}
    (written : text.toList = '-' :: first :: rest) :
    readInteger range text = readDigits range (-1) 0 (first :: rest) := by
  unfold readInteger
  rw [written]
  exact if_pos negative

/-- What is written is read back. -/
theorem readInteger_numeral {range : IntegerRange} (zero : range.Contains 0) {value : Int}
    (contained : range.Contains value) :
    readInteger range (numeral value) = .ok value := by
  cases value with
  | ofNat value =>
      obtain ⟨first, rest, written, isDigit⟩ := digits_eq_cons value
      have text : (numeral (.ofNat value)).toList = first :: rest := by
        rw [numeral_toList, numeralChars, written]
      rw [readInteger_digits range text isDigit, ← written,
        readDigits_digits .up zero value (by simpa using contained)]
      simp
  | negSucc value =>
      have least : range.least ≤ Int.negSucc value := contained.1
      have negative : range.least < 0 := Int.lt_of_le_of_lt least (Int.negSucc_lt_zero value)
      obtain ⟨first, rest, written, -⟩ := digits_eq_cons (value + 1)
      have text : (numeral (.negSucc value)).toList = '-' :: first :: rest := by
        rw [numeral_toList, numeralChars, written]
      have magnitude : (-1) * ((value + 1 : Nat) : Int) = Int.negSucc value := by omega
      rw [readInteger_minus negative text, ← written,
        readDigits_digits .down zero (value + 1) (by rwa [magnitude]), magnitude]

theorem readInt64_numeral (value : Int64) : readInt64 (numeral value.toInt) = .ok value := by
  have contained : IntegerRange.signed64.Contains value.toInt := by
    constructor
    · exact Int64.le_toInt value
    · exact Int.le_of_lt_add_one (Int64.toInt_lt value)
  rw [readInt64, readInteger_numeral (by decide) contained]
  simp [Except.map]

/-! ## Texts that denote a value -/

/-- The sign of a text, as the direction in which it counts, and what is behind it.  A
minus sign is a sign only where a range has negative values. -/
inductive Signed (range : IntegerRange) : List Char → Int → List Char → Prop where
  | plus (behind : List Char) : Signed range ('+' :: behind) 1 behind
  | minus (behind : List Char) (negative : range.least < 0) :
      Signed range ('-' :: behind) (-1) behind
  | missing {characters : List Char} (noPlus : characters.head? ≠ some '+')
      (noMinus : range.least < 0 → characters.head? ≠ some '-') :
      Signed range characters 1 characters

/-- A text denotes a value of a range: there is at least one digit behind its sign, and
nothing else. -/
inductive Denotes (range : IntegerRange) (text : String) : Int → Prop where
  | signed {sign : Int} {behind : List Char} {magnitude : Nat}
      (signed : Signed range text.toList sign behind) (filled : behind ≠ [])
      (denote : DigitsDenote behind magnitude)
      (contained : range.Contains (sign * magnitude)) :
      Denotes range text (sign * magnitude)

/-- Why a text does not denote a value of a range.  Whatever leaves the range with its
first digits is out of range, also if something else than a digit is behind them. -/
inductive Refused (range : IntegerRange) (text : String) : NumeralError → Prop where
  | empty (isEmpty : text.toList = []) : Refused range text .empty
  | lone {sign : Int} (signed : Signed range text.toList sign []) (filled : text.toList ≠ []) :
      Refused range text .invalidDigit
  | stray {sign : Int} {digits rest : List Char} {other : Char} {magnitude : Nat}
      (signed : Signed range text.toList sign (digits ++ other :: rest))
      (denote : DigitsDenote digits magnitude) (noDigit : other.isDigit = false)
      (contained : range.Contains (sign * magnitude)) :
      Refused range text .invalidDigit
  | tooLarge {digits rest : List Char} {magnitude : Nat}
      (signed : Signed range text.toList 1 (digits ++ rest))
      (denote : DigitsDenote digits magnitude) (beyond : range.greatest < magnitude) :
      Refused range text .tooLarge
  | tooSmall {digits rest : List Char} {magnitude : Nat}
      (signed : Signed range text.toList (-1) (digits ++ rest))
      (denote : DigitsDenote digits magnitude) (beyond : -magnitude < range.least) :
      Refused range text .tooSmall

section Denotes

variable {range : IntegerRange} {text : String} {sign : Int} {characters behind : List Char}

theorem DigitsDenote.unique {value other : Nat} (denote : DigitsDenote characters value)
    (again : DigitsDenote characters other) : value = other :=
  denote.denoted.symm.trans again.denoted

theorem DigitsDenote.head_isDigit {character : Char} {value : Nat}
    (denote : DigitsDenote (character :: characters) value) : character.isDigit = true :=
  denote.areDigits character List.mem_cons_self

theorem exists_digitsDenote (characters : List Char)
    (areDigits : ∀ character ∈ characters, character.isDigit = true) :
    ∃ value, DigitsDenote characters value :=
  ⟨_, areDigits, rfl⟩

theorem exists_signed (range : IntegerRange) (characters : List Char) :
    ∃ sign behind, Signed range characters sign behind := by
  by_cases plus : characters.head? = some '+'
  · obtain ⟨behind, rfl⟩ := List.head?_eq_some_iff.mp plus
    exact ⟨1, behind, .plus behind⟩
  · by_cases minus : range.least < 0 ∧ characters.head? = some '-'
    · obtain ⟨negative, first⟩ := minus
      obtain ⟨behind, rfl⟩ := List.head?_eq_some_iff.mp first
      exact ⟨-1, behind, .minus behind negative⟩
    · exact ⟨1, characters, .missing plus fun negative first => minus ⟨negative, first⟩⟩

theorem Signed.direction (signed : Signed range characters sign behind) : Direction sign := by
  cases signed with
  | plus => exact .up
  | minus => exact .down
  | missing => exact .up

/-- Reading takes the sign off and reads the digits behind it. -/
theorem readInteger_signed (signed : Signed range text.toList sign behind)
    (filled : behind ≠ []) : readInteger range text = readDigits range sign 0 behind := by
  obtain ⟨first, rest, rfl⟩ := List.exists_cons_of_ne_nil filled
  generalize written : text.toList = characters at signed
  cases signed with
  | plus =>
      unfold readInteger
      rw [written]
      rfl
  | minus _ negative => exact readInteger_minus negative written
  | missing noPlus noMinus =>
      have isNoPlus : first ≠ '+' := fun same => noPlus (congrArg some same)
      by_cases isMinus : first = '-'
      · have nonnegative : ¬ range.least < 0 := fun negative =>
          noMinus negative (congrArg some isMinus)
        subst isMinus
        unfold readInteger
        rw [written]
        cases rest with
        | nil => rfl
        | cons => exact if_neg nonnegative
      · exact readInteger_bare range written isNoPlus isMinus

theorem readInteger_lone (signed : Signed range text.toList sign [])
    (filled : text.toList ≠ []) : readInteger range text = .error .invalidDigit := by
  unfold readInteger
  generalize text.toList = characters at signed filled
  cases signed with
  | plus => rfl
  | minus => rfl
  | missing => exact absurd rfl filled

theorem readInteger_of_denotes (zero : range.Contains 0) {value : Int}
    (denotes : Denotes range text value) : readInteger range text = .ok value := by
  obtain ⟨signed, filled, ⟨areDigits, rfl⟩, contained⟩ := denotes
  have read := readDigits_of_digits signed.direction zero areDigits 0 contained
  rw [readInteger_signed signed filled]
  rwa [Int.natCast_zero, Int.mul_zero] at read

theorem readInteger_of_beyond (zero : range.Contains 0) {digits rest : List Char}
    {magnitude : Nat} (signed : Signed range text.toList sign (digits ++ rest))
    (denote : DigitsDenote digits magnitude) (beyond : ¬ range.Contains (sign * magnitude)) :
    readInteger range text = .error (if sign < 0 then .tooSmall else .tooLarge) := by
  obtain ⟨areDigits, rfl⟩ := denote
  have filled : digits ++ rest ≠ [] := by
    intro nothing
    obtain ⟨rfl, -⟩ := List.append_eq_nil_iff.mp nothing
    exact beyond (by simpa using zero)
  have atZero : range.Contains (sign * (0 : Nat)) := by simpa using zero
  have read := readDigits_beyond signed.direction areDigits 0 atZero beyond rest
  rw [readInteger_signed signed filled]
  rwa [Int.natCast_zero, Int.mul_zero] at read

theorem readInteger_of_refused (zero : range.Contains 0) {error : NumeralError}
    (refused : Refused range text error) : readInteger range text = .error error := by
  cases refused with
  | empty isEmpty =>
      unfold readInteger
      rw [isEmpty]
  | lone signed filled => exact readInteger_lone signed filled
  | @stray sign digits rest other magnitude signed denote noDigit contained =>
      obtain ⟨areDigits, rfl⟩ := denote
      have read := readDigits_append signed.direction zero areDigits 0 contained (other :: rest)
      have stops : readDigits range sign (sign * Nat.ofDigitChars 10 digits 0)
          (other :: rest) = .error .invalidDigit := by
        rw [readDigits, noDigit]
        rfl
      rw [readInteger_signed signed (by simp)]
      rwa [Int.natCast_zero, Int.mul_zero, stops] at read
  | @tooLarge digits rest magnitude signed denote beyond =>
      have outside : ¬ range.Contains (1 * magnitude) := by
        rw [Int.one_mul]
        exact fun contained => Int.not_lt.mpr contained.2 beyond
      exact readInteger_of_beyond zero signed denote outside
  | @tooSmall digits rest magnitude signed denote beyond =>
      have outside : ¬ range.Contains (-1 * magnitude) := by
        rw [Int.neg_one_mul]
        exact fun contained => Int.not_lt.mpr contained.1 beyond
      exact readInteger_of_beyond zero signed denote outside

/-- A text that does not denote a value is refused for some reason. -/
theorem denotes_or_refused (zero : range.Contains 0) (text : String) :
    (∃ value, Denotes range text value) ∨ ∃ error, Refused range text error := by
  obtain ⟨sign, behind, signed⟩ := exists_signed range text.toList
  obtain ⟨magnitude, denote⟩ :=
    exists_digitsDenote (behind.takeWhile Char.isDigit)
      fun character member => List.mem_takeWhile_imp member
  have split : behind.takeWhile Char.isDigit ++ behind.dropWhile Char.isDigit = behind :=
    List.takeWhile_append_dropWhile
  by_cases contained : range.Contains (sign * magnitude)
  · cases stop : behind.dropWhile Char.isDigit with
    | nil =>
        rw [stop, List.append_nil] at split
        rw [split] at denote
        by_cases filled : behind = []
        · subst filled
          by_cases isEmpty : text.toList = []
          · exact .inr ⟨_, .empty isEmpty⟩
          · exact .inr ⟨_, .lone signed isEmpty⟩
        · exact .inl ⟨_, .signed signed filled denote contained⟩
    | cons other rest =>
        have noDigit : other.isDigit = false := by
          have first := List.head?_dropWhile_not Char.isDigit behind
          rw [stop] at first
          simpa using first
        rw [← split, stop] at signed
        exact .inr ⟨_, .stray signed denote noDigit contained⟩
  · obtain ⟨atLeast, atMost⟩ := zero
    have outside : range.greatest < sign * magnitude ∨ sign * magnitude < range.least := by
      by_contra inside
      push Not at inside
      exact contained ⟨inside.2, inside.1⟩
    rw [← split] at signed
    cases direction : signed.direction with
    | up => exact .inr ⟨_, .tooLarge signed denote (by omega)⟩
    | down => exact .inr ⟨_, .tooSmall signed denote (by omega)⟩

theorem readInteger_eq_ok_iff (zero : range.Contains 0) {value : Int} :
    readInteger range text = .ok value ↔ Denotes range text value := by
  constructor
  · intro read
    rcases denotes_or_refused zero text with ⟨other, denotes⟩ | ⟨error, refused⟩
    · rw [readInteger_of_denotes zero denotes] at read
      cases read
      exact denotes
    · rw [readInteger_of_refused zero refused] at read
      cases read
  · exact readInteger_of_denotes zero

theorem readInteger_eq_error_iff (zero : range.Contains 0) {error : NumeralError} :
    readInteger range text = .error error ↔ Refused range text error := by
  constructor
  · intro read
    rcases denotes_or_refused zero text with ⟨value, denotes⟩ | ⟨other, refused⟩
    · rw [readInteger_of_denotes zero denotes] at read
      cases read
    · rw [readInteger_of_refused zero refused] at read
      cases read
      exact refused
  · exact readInteger_of_refused zero

theorem Denotes.contained {value : Int} (denotes : Denotes range text value) :
    range.Contains value := by
  cases denotes with
  | signed _ _ _ contained => exact contained

end Denotes

/-! ## Digits of a fixed width -/

section Width

variable {characters others : List Char}

theorem digitsDenote_paddedDigits (width value : Nat) :
    DigitsDenote (paddedDigits width value) value := by
  obtain ⟨areDigits, denoted⟩ := digitsDenote_digits value
  constructor
  · intro character member
    rcases List.mem_append.mp member with isZero | isDigit
    · obtain rfl := List.eq_of_mem_replicate isZero
      rfl
    · exact areDigits character isDigit
  · unfold paddedDigits
    rw [Nat.ofDigitChars_append, Nat.ofDigitChars_replicate_zero, Nat.mul_zero, denoted]

theorem le_length_paddedDigits (width value : Nat) :
    width ≤ (paddedDigits width value).length := by
  unfold paddedDigits
  rw [List.length_append, List.length_replicate]
  omega

theorem length_paddedDigits {width value : Nat} (positive : 0 < width)
    (fits : value < 10 ^ width) : (paddedDigits width value).length = width := by
  have short : (digits value).length ≤ width :=
    (Nat.length_toDigits_le_iff (by decide) positive).mpr fits
  unfold paddedDigits
  rw [List.length_append, List.length_replicate]
  omega

theorem ofDigitChars_lt (areDigits : ∀ character ∈ characters, character.isDigit = true)
    (value : Nat) :
    Nat.ofDigitChars 10 characters value < 10 ^ characters.length * (value + 1) := by
  induction characters generalizing value with
  | nil => simp
  | cons character rest induction =>
      obtain ⟨isDigit, restDigits⟩ := List.forall_mem_cons.mp areDigits
      have digit : digitValue character < 10 := by
        have atMost : character.toNat ≤ 57 := (Char.isDigit_iff_toNat.mp isDigit).2
        have least : '0'.toNat = 48 := rfl
        unfold digitValue
        omega
      have behind := induction restDigits (10 * value + digitValue character)
      rw [Nat.ofDigitChars_cons, List.length_cons, Nat.pow_succ]
      calc
        _ < 10 ^ rest.length * (10 * value + digitValue character + 1) := behind
        _ ≤ 10 ^ rest.length * (10 * (value + 1)) := Nat.mul_le_mul_left _ (by omega)
        _ = 10 ^ rest.length * 10 * (value + 1) := (Nat.mul_assoc _ _ _).symm

/-- Of two lists of as many digits the one that comes first denotes less, whatever is in
front of both.  By induction on the digits: the first ones that differ decide, since all
digits behind them together do not make up for one. -/
theorem ofDigitChars_lt_of_lt
    (areDigits : ∀ character ∈ characters, character.isDigit = true)
    (same : characters.length = others.length) (less : characters < others)
    (value : Nat) :
    Nat.ofDigitChars 10 characters value < Nat.ofDigitChars 10 others value := by
  induction characters generalizing others value with
  | nil =>
      obtain rfl := List.eq_nil_of_length_eq_zero same.symm
      exact absurd less (List.lt_irrefl _)
  | cons character rest induction =>
      obtain ⟨other, behind, rfl⟩ := List.exists_cons_of_length_eq_add_one same.symm
      obtain ⟨isDigit, restDigits⟩ := List.forall_mem_cons.mp areDigits
      have sameRest : rest.length = behind.length := Nat.succ.inj same
      rw [Nat.ofDigitChars_cons, Nat.ofDigitChars_cons]
      rcases List.cons_lt_cons_iff.mp less with earlier | ⟨rfl, lessRest⟩
      · have smaller : digitValue character + 1 ≤ digitValue other := by
          have least := (Char.isDigit_iff_toNat.mp isDigit).1
          have lessChar : character.toNat < other.toNat := earlier
          unfold digitValue
          omega
        calc
          _ < 10 ^ rest.length * (10 * value + digitValue character + 1) :=
            ofDigitChars_lt restDigits _
          _ ≤ 10 ^ behind.length * (10 * value + digitValue other) := by
            rw [sameRest]
            exact Nat.mul_le_mul_left _ (by omega)
          _ ≤ Nat.ofDigitChars 10 behind (10 * value + digitValue other) := by
            rw [Nat.ofDigitChars_eq_ofDigitChars_zero]
            exact Nat.le_add_right _ _
      · exact induction restDigits sameRest lessRest _

theorem DigitsDenote.lt_of_lt {value other : Nat} (denote : DigitsDenote characters value)
    (again : DigitsDenote others other) (same : characters.length = others.length)
    (less : characters < others) : value < other := by
  rw [← denote.denoted, ← again.denoted]
  exact ofDigitChars_lt_of_lt denote.areDigits same less 0

/-- In texts with beginnings of one length the beginnings are compared first. -/
theorem lt_cases_of_append_lt_append {behind rest : List Char}
    (same : characters.length = others.length)
    (less : characters ++ behind < others ++ rest) :
    characters < others ∨ characters = others ∧ behind < rest := by
  induction characters generalizing others with
  | nil =>
      obtain rfl := List.eq_nil_of_length_eq_zero same.symm
      exact .inr ⟨rfl, less⟩
  | cons character tail induction =>
      obtain ⟨other, others, rfl⟩ := List.exists_cons_of_length_eq_add_one same.symm
      rcases List.cons_lt_cons_iff.mp less with earlier | ⟨rfl, lessTail⟩
      · exact .inl (List.cons_lt_cons_iff.mpr (.inl earlier))
      · rcases induction (Nat.succ.inj same) lessTail with earlier | ⟨rfl, behindLess⟩
        · exact .inl (List.cons_lt_cons_iff.mpr (.inr ⟨rfl, earlier⟩))
        · exact .inr ⟨rfl, behindLess⟩

end Width

/-! ## Words -/

section Words

variable {text : String} {error : NumeralError}

/-- Reading a word: a word stands for a value of the range, and each value of the range
for a word. -/
theorem map_readInteger_eq_ok_iff {Word : Type} {range : IntegerRange} (zero : range.Contains 0)
    {ofInt : Int → Word} {toInt : Word → Int}
    (toInt_ofInt : ∀ value, range.Contains value → toInt (ofInt value) = value)
    (ofInt_toInt : ∀ word, ofInt (toInt word) = word) {word : Word} :
    (readInteger range text).map ofInt = .ok word ↔ Denotes range text (toInt word) := by
  rw [← readInteger_eq_ok_iff zero]
  cases read : readInteger range text with
  | error error => exact ⟨nofun, nofun⟩
  | ok value =>
      have contained := ((readInteger_eq_ok_iff zero).mp read).contained
      constructor
      · intro same
        cases same
        rw [toInt_ofInt value contained]
      · intro same
        cases same
        exact congrArg Except.ok (ofInt_toInt word)

theorem map_readInteger_eq_error_iff {Word : Type} {range : IntegerRange}
    (zero : range.Contains 0) (ofInt : Int → Word) :
    (readInteger range text).map ofInt = .error error ↔ Refused range text error := by
  rw [← readInteger_eq_error_iff zero]
  cases readInteger range text with
  | error other => exact Iff.intro (fun same => by cases same; rfl) (fun same => by cases same; rfl)
  | ok value => exact ⟨nofun, nofun⟩

theorem toInt_ofInt64 (value : Int) (contained : IntegerRange.signed64.Contains value) :
    (Int64.ofInt value).toInt = value :=
  Int64.toInt_ofInt_of_le contained.1 (Int.lt_add_one_of_le contained.2)

theorem toNat_ofNat64 (value : Int) (contained : IntegerRange.unsigned64.Contains value) :
    ((UInt64.ofNat value.toNat).toNat : Int) = value := by
  obtain ⟨atLeast, atMost⟩ := contained
  have fits : value.toNat < UInt64.size := by
    change 0 ≤ value at atLeast
    change value ≤ 0xFFFFFFFFFFFFFFFF at atMost
    rw [show UInt64.size = 0xFFFFFFFFFFFFFFFF + 1 from rfl]
    omega
  rw [UInt64.toNat_ofNat_of_lt' fits]
  exact Int.toNat_of_nonneg atLeast

theorem toNat_ofNat32 (value : Int) (contained : IntegerRange.unsigned32.Contains value) :
    ((UInt32.ofNat value.toNat).toNat : Int) = value := by
  obtain ⟨atLeast, atMost⟩ := contained
  have fits : value.toNat < UInt32.size := by
    change 0 ≤ value at atLeast
    change value ≤ 0xFFFFFFFF at atMost
    rw [show UInt32.size = 0xFFFFFFFF + 1 from rfl]
    omega
  rw [UInt32.toNat_ofNat_of_lt' fits]
  exact Int.toNat_of_nonneg atLeast

theorem Denotes.exists_int64 {value : Int} (denotes : Denotes .signed64 text value) :
    ∃ word : Int64, Denotes .signed64 text word.toInt :=
  ⟨Int64.ofInt value, by rwa [toInt_ofInt64 value denotes.contained]⟩

theorem Denotes.exists_uint64 {value : Int} (denotes : Denotes .unsigned64 text value) :
    ∃ word : UInt64, Denotes .unsigned64 text word.toNat :=
  ⟨UInt64.ofNat value.toNat, by rwa [toNat_ofNat64 value denotes.contained]⟩

theorem Denotes.exists_uint32 {value : Int} (denotes : Denotes .unsigned32 text value) :
    ∃ word : UInt32, Denotes .unsigned32 text word.toNat :=
  ⟨UInt32.ofNat value.toNat, by rwa [toNat_ofNat32 value denotes.contained]⟩

theorem readInt64_eq_ok_iff {word : Int64} :
    readInt64 text = .ok word ↔ Denotes .signed64 text word.toInt :=
  map_readInteger_eq_ok_iff (by decide) toInt_ofInt64 fun word => Int64.ofInt_toInt word

theorem readInt64_eq_error_iff :
    readInt64 text = .error error ↔ Refused .signed64 text error :=
  map_readInteger_eq_error_iff (by decide) _

theorem readUInt64_eq_ok_iff {word : UInt64} :
    readUInt64 text = .ok word ↔ Denotes .unsigned64 text word.toNat := by
  apply map_readInteger_eq_ok_iff (by decide)
  · exact toNat_ofNat64
  · exact fun word => UInt64.ofNat_toNat

theorem readUInt64_eq_error_iff :
    readUInt64 text = .error error ↔ Refused .unsigned64 text error :=
  map_readInteger_eq_error_iff (by decide) _

theorem readUInt32_eq_ok_iff {word : UInt32} :
    readUInt32 text = .ok word ↔ Denotes .unsigned32 text word.toNat := by
  apply map_readInteger_eq_ok_iff (by decide)
  · exact toNat_ofNat32
  · exact fun word => UInt32.ofNat_toNat

theorem readUInt32_eq_error_iff :
    readUInt32 text = .error error ↔ Refused .unsigned32 text error :=
  map_readInteger_eq_error_iff (by decide) _

end Words

end Pacing.Text
