import Pacing.Json.Writer
import Pacing.Json.Reader
import Pacing.Proofs.Numerals

/-!
# Strings and integers read back

A string is written character by character and read so, too: each character is read back
from what is written for it, whether that is an escape or the character itself.  A number
ends where the digits end, so an integer is read back in front of anything that can follow
a value.
-/

namespace Pacing.Json

/-! ## Strings -/

theorem hexValue?_hexDigit : ∀ value < 16, Text.hexValue? (hexDigit value) = some value := by
  decide

/-- The two digits of a character below the space. -/
theorem readEscape_control {character : Char} (isControl : character.toNat < 0x20)
    (rest : List Char) :
    readEscape ('u' :: '0' :: '0' :: hexDigit (character.toNat / 16) ::
      hexDigit (character.toNat % 16) :: rest) = .ok (character, rest) := by
  have zero : Text.hexValue? '0' = some 0 := by decide
  have high := hexValue?_hexDigit (character.toNat / 16) (by omega)
  have low := hexValue?_hexDigit (character.toNat % 16) (by omega)
  have code : (0 * 16 + 0) * 256 + (character.toNat / 16 * 16 + character.toNat % 16) =
      character.toNat := by omega
  have quad : readHexQuad ('0' :: '0' :: hexDigit (character.toNat / 16) ::
      hexDigit (character.toNat % 16) :: rest) = .ok (character.toNat, rest) := by
    simp only [readHexQuad, hexQuad?, zero, high, low, Option.bind_eq_bind, Option.bind_some,
      code]
    rfl
  have noLow : ¬ (0xDC00 ≤ character.toNat ∧ character.toNat < 0xE000) := by omega
  have noHigh : ¬ (0xD800 ≤ character.toNat ∧ character.toNat < 0xDC00) := by omega
  simp only [readEscape, readUnicodeEscape, quad, if_neg noLow, if_neg noHigh,
    Char.ofNat_toNat]

theorem readString_escape {escape rest : List Char} {escaped : Char}
    (read : readEscape (escape ++ rest) = .ok (escaped, rest)) (calls : Nat)
    (before : List Char) :
    readString (calls + 1) before ('\\' :: escape ++ rest) =
      readString calls (escaped :: before) rest := by
  simp [readString, read]

/-- What is written for a character is read back as it. -/
theorem readString_writeChar (character : Char) (calls : Nat) (before rest : List Char) :
    readString (calls + 1) before (writeChar character ++ rest) =
      readString calls (character :: before) rest := by
  unfold writeChar
  split
  case h_8 noQuote noBackslash _ _ _ _ _ =>
    split
    · next isControl => exact readString_escape (readEscape_control isControl rest) calls before
    · next notControl => simp_all [readString]
  all_goals exact readString_escape rfl calls before

theorem writeChar_ne_nil (character : Char) : writeChar character ≠ [] := by
  unfold writeChar
  split
  case h_8 => split <;> simp
  all_goals simp

/-- A string is read back by induction on its characters, each of which takes a call; the
last call meets the closing quote. -/
theorem readString_written {characters : List Char} {calls : Nat}
    (enough : characters.length < calls) (before rest : List Char) :
    readString calls before (characters.flatMap writeChar ++ '"' :: rest) =
      .ok (String.ofList (before.reverse ++ characters), rest) := by
  induction characters generalizing calls before with
  | nil =>
      obtain ⟨calls, rfl⟩ := Nat.exists_eq_succ_of_ne_zero (Nat.ne_zero_of_lt enough)
      simp [readString]
  | cons character characters induction =>
      obtain ⟨calls, rfl⟩ := Nat.exists_eq_succ_of_ne_zero (Nat.ne_zero_of_lt enough)
      have behind : characters.length < calls := Nat.lt_of_succ_lt_succ enough
      rw [List.flatMap_cons, List.append_assoc, readString_writeChar,
        induction behind, List.reverse_cons, List.append_assoc, List.singleton_append]

theorem length_le_flatMap_writeChar (characters : List Char) :
    characters.length ≤ (characters.flatMap writeChar).length := by
  induction characters with
  | nil => exact Nat.le_refl 0
  | cons character characters induction =>
      have positive := List.length_pos_iff.mpr (writeChar_ne_nil character)
      rw [List.flatMap_cons, List.length_append, List.length_cons]
      omega

/-- The characters of a string between its quotes, and the closing one. -/
def closedString (text : String) : List Char :=
  text.toList.flatMap writeChar ++ ['"']

theorem writeString_eq (text : String) : writeString text = '"' :: closedString text := rfl

theorem readString_closedString {text : String} {calls : Nat}
    (enough : (closedString text).length ≤ calls) (rest : List Char) :
    readString calls [] (closedString text ++ rest) = .ok (text, rest) := by
  have atMost := length_le_flatMap_writeChar text.toList
  have fewer : text.toList.length < calls := by
    rw [closedString, List.length_append, List.length_singleton] at enough
    omega
  have read := readString_written fewer [] rest
  rwa [List.reverse_nil, List.nil_append, String.ofList_toList, ← List.singleton_append,
    ← List.append_assoc] at read

/-! ## Integers -/

/-- What can follow a value inside of a text. -/
inductive Delimited : List Char → Prop where
  | nothing : Delimited []
  | comma (rest : List Char) : Delimited (',' :: rest)
  | bracket (rest : List Char) : Delimited (']' :: rest)
  | brace (rest : List Char) : Delimited ('\x7d' :: rest)

theorem Delimited.takeWhile_isDigit {rest : List Char} (delimited : Delimited rest) :
    rest.takeWhile Char.isDigit = [] := by
  cases delimited <;> rfl

theorem Delimited.dropWhile_isDigit {rest : List Char} (delimited : Delimited rest) :
    rest.dropWhile Char.isDigit = rest := by
  cases delimited <;> rfl

theorem isDigit_of_mem_digits {value : Nat} {character : Char}
    (member : character ∈ Text.digits value) : character.isDigit = true :=
  Nat.isDigit_of_mem_toDigits (by decide) (by decide) member

theorem eq_zero_of_digits_eq_cons {value : Nat} {rest : List Char}
    (written : Text.digits value = '0' :: rest) : value = 0 := by
  induction value using Nat.strongRecOn generalizing rest with
  | ind value induction =>
      unfold Text.digits at written
      rw [Nat.toDigits_eq_if (by decide)] at written
      split at written
      · next small =>
          have digit : Nat.digitChar value = '0' := (List.cons.inj written).1
          revert small digit
          clear induction written
          revert value
          decide
      · next large =>
          cases before : Nat.toDigits 10 (value / 10) with
          | nil => exact absurd before Nat.toDigits_ne_nil
          | cons first others =>
              rw [before] at written
              obtain rfl : first = '0' := (List.cons.inj written).1
              have none : value / 10 = 0 := induction (value / 10) (by omega) before
              omega

/-- No digit is left over as long as the number is in range. -/
theorem appendDigits_of_le {digits : List Char} {coefficient : Nat}
    (atMost : Nat.ofDigitChars 10 digits coefficient ≤ greatestCoefficient) :
    appendDigits coefficient digits = (Nat.ofDigitChars 10 digits coefficient, []) := by
  induction digits generalizing coefficient with
  | nil => rfl
  | cons digit digits induction =>
      rw [Nat.ofDigitChars_cons] at atMost ⊢
      have next : coefficient * 10 + Text.digitValue digit =
          10 * coefficient + (digit.toNat - '0'.toNat) := by
        rw [Nat.mul_comm, Text.digitValue]
      have inRange := Nat.le_trans (Text.le_ofDigitChars digits _) atMost
      rw [appendDigits, next, if_neg (Nat.not_lt.mpr inRange)]
      exact induction atMost

theorem readMagnitude_digits {negative : Bool} {coefficient : Nat} {word : WordInteger}
    (value : word.value = if negative then -(coefficient : Int) else coefficient)
    (noMinusZero : negative = true → coefficient ≠ 0) {rest : List Char}
    (delimited : Delimited rest) :
    readMagnitude negative (Text.digits coefficient ++ rest) = .ok (.integer word, rest) := by
  have areDigits : ∀ character ∈ Text.digits coefficient, character.isDigit = true :=
    fun character => isDigit_of_mem_digits
  have taken : (Text.digits coefficient ++ rest).takeWhile Char.isDigit =
      Text.digits coefficient := by
    rw [List.takeWhile_append_of_pos areDigits, delimited.takeWhile_isDigit, List.append_nil]
  have dropped : (Text.digits coefficient ++ rest).dropWhile Char.isDigit = rest := by
    rw [List.dropWhile_append_of_pos areDigits, delimited.dropWhile_isDigit]
  have inRange : coefficient ≤ greatestCoefficient := by
    have atLeast := word.least_le
    have atMost := word.le_greatest
    unfold greatestCoefficient
    cases negative with
    | false => simp at value; omega
    | true => simp at value; omega
  have denoted : Nat.ofDigitChars 10 (Text.digits coefficient) 0 = coefficient :=
    Nat.ofDigitChars_ten_toDigits
  have collected : appendDigits 0 (Text.digits coefficient) = (coefficient, []) := by
    rw [appendDigits_of_le (by rwa [denoted]), denoted]
  have whole : readWhole negative coefficient 0 rest = .ok (.integer word, rest) := by
    unfold readWhole
    dsimp only
    rw [← value, WordInteger.ofInt?_value]
    exact if_neg fun ⟨isNegative, isZero⟩ => noMinusZero isNegative isZero
  unfold readMagnitude
  rw [taken, dropped]
  dsimp only
  split
  · next none => exact absurd none Nat.toDigits_ne_nil
  · next second more written =>
      rw [eq_zero_of_digits_eq_cons written] at written
      cases written
  · rw [collected]
    cases delimited <;> exact whole

/-- The numeral of minus zero. -/
theorem readMagnitude_zero {rest : List Char} (delimited : Delimited rest) :
    readMagnitude true ('0' :: '.' :: '0' :: rest) =
      .ok (.real (Binary64.zero true), rest) := by
  have decimal : Binary64.ofDecimal true 0 (-1) = some (Binary64.zero true) := by decide
  have fraction : readFraction true 0 0 ('0' :: rest) =
      .ok (.real (Binary64.zero true), rest) := by
    unfold readFraction
    have taken : ('0' :: rest).takeWhile Char.isDigit = ['0'] :=
      congrArg (List.cons '0') delimited.takeWhile_isDigit
    have dropped : ('0' :: rest).dropWhile Char.isDigit = rest := delimited.dropWhile_isDigit
    have closed : readReal true 0 (-1) rest = .ok (.real (Binary64.zero true), rest) := by
      rw [readReal, decimal]
    rw [taken, dropped]
    cases delimited <;> exact closed
  exact fraction

end Pacing.Json
