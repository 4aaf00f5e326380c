import Pacing.Proofs.Nesting
import Pacing.Proofs.Scalars

/-!
# Values read back

The compact text of a value without fractions denotes the value again, as long as it nests
no deeper than the reader goes.  It suffices that the members of objects are in order,
since then the reader puts each of them behind those it has read.
-/

namespace Pacing.Json

/-- All numbers in a value are integers of a word, or the minus zero of an integer numeral. -/
inductive Whole : Json → Prop where
  | null : Whole .null
  | bool (value : Bool) : Whole (.bool value)
  | integer (value : WordInteger) : Whole (.integer value)
  | minusZero : Whole (.real (Binary64.zero true))
  | string (text : String) : Whole (.string text)
  | array {items : List Json} (within : ∀ item ∈ items, Whole item) : Whole (.array items)
  | object {members : Members} (within : ∀ member ∈ members, Whole member.2) :
      Whole (.object members)

attribute [simp] Whole.null Whole.bool Whole.integer Whole.minusZero Whole.string

@[simp] theorem whole_array {items : List Json} :
    Whole (.array items) ↔ ∀ item ∈ items, Whole item := by
  constructor
  · rintro ⟨⟩
    assumption
  · exact .array

@[simp] theorem whole_object {members : Members} :
    Whole (.object members) ↔ ∀ member ∈ members, Whole member.2 := by
  constructor
  · rintro ⟨⟩
    assumption
  · exact .object

/-! ## Beginnings -/

/-- Characters that a value or a member can begin with. -/
inductive Begun : List Char → Prop where
  | intro {first : Char} (rest : List Char)
      (begins : isSpace first = false ∧ first ≠ ']' ∧ first ≠ '\x7d') : Begun (first :: rest)

theorem Begun.append {characters : List Char} (begun : Begun characters)
    (rest : List Char) : Begun (characters ++ rest) := by
  cases begun with
  | intro others begins => exact .intro (others ++ rest) begins

theorem Begun.skipSpace {characters : List Char} (begun : Begun characters) :
    skipSpace characters = characters := by
  cases begun with
  | intro others begins => exact List.dropWhile_cons_of_neg (by simp [begins])

theorem Begun.length_pos {characters : List Char} (begun : Begun characters) :
    0 < characters.length := by
  cases begun
  exact Nat.succ_pos _

theorem begun_writeString (text : String) : Begun (writeString text) :=
  .intro _ (by decide)

theorem begun_of_isDigit {first : Char} (isDigit : first.isDigit = true) (rest : List Char) :
    Begun (first :: rest) := by
  have other (character : Char) (noDigit : character.isDigit = false) : first ≠ character := by
    rintro rfl
    cases isDigit.symm.trans noDigit
  refine .intro rest ⟨?_, other ']' (by decide), other '\x7d' (by decide)⟩
  simp [isSpace, other ' ' (by decide), other '\n' (by decide), other '\t' (by decide),
    other '\r' (by decide)]

theorem begun_digits (value : Nat) : Begun (Text.digits value) := by
  obtain ⟨first, rest, written, isDigit⟩ := Text.digits_eq_cons value
  rw [written]
  exact begun_of_isDigit isDigit rest

theorem Whole.begun {value : Json} (whole : Whole value) : Begun (writeChars value) := by
  cases whole with
  | null => exact .intro _ (by decide)
  | bool value => cases value <;> exact .intro _ (by decide)
  | integer word =>
      unfold writeChars
      rcases word.value with value | value
      · exact begun_digits value
      · exact .intro _ (by decide)
  | minusZero => exact .intro _ (by decide)
  | string text => exact begun_writeString text
  | array within => exact .intro _ (by decide)
  | object within => exact .intro _ (by decide)

/-! ## Single steps -/

variable {calls levels : Nat}

theorem readValue_string {text : String} (enough : (closedString text).length ≤ calls)
    (rest : List Char) :
    readValue (calls + 1) levels (writeString text ++ rest) = .ok (.string text, rest) := by
  have opened : skipSpace ('"' :: (closedString text ++ rest)) =
      '"' :: (closedString text ++ rest) := rfl
  rw [writeString_eq, List.cons_append, readValue, opened]
  simp only [readString_closedString enough]

theorem readValue_array {rest : List Char} (begun : Begun rest) :
    readValue (calls + 1) (levels + 1) ('[' :: rest) = readItems calls levels [] rest := by
  have opened : skipSpace ('[' :: rest) = '[' :: rest := rfl
  rw [readValue, opened]
  simp only [begun.skipSpace]
  cases begun with
  | intro rest begins => simp [begins]

theorem readValue_object {rest : List Char} (begun : Begun rest) :
    readValue (calls + 1) (levels + 1) ('\x7b' :: rest) = readMembers calls levels [] rest := by
  have opened : skipSpace ('\x7b' :: rest) = '\x7b' :: rest := rfl
  rw [readValue, opened]
  simp only [begun.skipSpace]
  cases begun with
  | intro rest begins => simp [begins]

theorem readItems_more {item : Json} {before : List Json} {input rest : List Char}
    (read : readValue calls levels input = .ok (item, ',' :: rest)) (begun : Begun rest) :
    readItems (calls + 1) levels before input = readItems calls levels (item :: before) rest := by
  have comma : skipSpace (',' :: rest) = ',' :: rest := rfl
  rw [readItems, read]
  simp only [comma, begun.skipSpace]
  cases begun with
  | intro rest begins => simp [begins]

theorem readItems_last {item : Json} {before : List Json} {input rest : List Char}
    (read : readValue calls levels input = .ok (item, ']' :: rest)) :
    readItems (calls + 1) levels before input = .ok (.array (item :: before).reverse, rest) := by
  rw [readItems, read]
  rfl

theorem readMembers_more {name : String} {value : Json} {before : Members}
    {input rest : List Char} (enough : (closedString name).length ≤ calls)
    (read : readValue calls levels input = .ok (value, ',' :: rest)) (begun : Begun rest) :
    readMembers (calls + 1) levels before (writeString name ++ ':' :: input) =
      readMembers calls levels (before.insert name value) rest := by
  have colon : skipSpace (':' :: input) = ':' :: input := rfl
  have comma : skipSpace (',' :: rest) = ',' :: rest := rfl
  rw [writeString_eq, List.cons_append, readMembers]
  simp only [readString_closedString enough, colon, read, comma, begun.skipSpace]
  cases begun with
  | intro rest begins => simp [begins]

theorem readMembers_last {name : String} {value : Json} {before : Members}
    {input rest : List Char} (enough : (closedString name).length ≤ calls)
    (read : readValue calls levels input = .ok (value, '\x7d' :: rest)) :
    readMembers (calls + 1) levels before (writeString name ++ ':' :: input) =
      .ok (.object (before.insert name value), rest) := by
  have colon : skipSpace (':' :: input) = ':' :: input := rfl
  rw [writeString_eq, List.cons_append, readMembers]
  simp only [readString_closedString enough, colon, read]
  rfl

/-! ## Items and members -/

/-- The text of a value is read back with as many calls as it has characters. -/
def Restored (levels : Nat) (value : Json) : Prop :=
  ∀ calls rest, Delimited rest → (writeChars value).length ≤ calls →
    readValue calls levels (writeChars value ++ rest) = .ok (value, rest)

theorem writeItems_more (item second : Json) (others : List Json) :
    writeItems (item :: second :: others) =
      writeChars item ++ ',' :: writeItems (second :: others) := rfl

theorem writeMembers_more (member second : String × Json) (others : Members) :
    writeMembers (member :: second :: others) =
      writeMember member ++ ',' :: writeMembers (second :: others) := rfl

theorem writeMember_append (member : String × Json) (rest : List Char) :
    writeMember member ++ rest =
      writeString member.1 ++ ':' :: (writeChars member.2 ++ rest) := by
  rw [writeMember, List.append_assoc, List.cons_append]

theorem length_writeMember (member : String × Json) :
    (writeMember member).length =
      (closedString member.1).length + (writeChars member.2).length + 2 := by
  rw [writeMember, writeString_eq, List.length_append, List.length_cons, List.length_cons]
  omega

theorem begun_writeMembers {members : Members} (nonempty : members ≠ []) :
    Begun (writeMembers members) := by
  cases members with
  | nil => contradiction
  | cons member others =>
      have begun : Begun (writeMember member) := by
        obtain ⟨name, value⟩ := member
        exact (begun_writeString name).append _
      cases others with
      | nil => exact begun
      | cons second others => exact begun.append _

theorem begun_writeItems {items : List Json} (nonempty : items ≠ [])
    (whole : ∀ item ∈ items, Whole item) : Begun (writeItems items) := by
  cases items with
  | nil => contradiction
  | cons item others =>
      have begun := (whole item List.mem_cons_self).begun
      cases others with
      | nil => exact begun
      | cons second others => exact begun.append _

theorem readItems_written {items : List Json} (nonempty : items ≠ [])
    (whole : ∀ item ∈ items, Whole item) (restored : ∀ item ∈ items, Restored levels item)
    (enough : (writeItems items).length < calls) (before : List Json) (rest : List Char) :
    readItems calls levels before (writeItems items ++ ']' :: rest) =
      .ok (.array (before.reverse ++ items), rest) := by
  induction items generalizing calls before with
  | nil => contradiction
  | cons item items induction =>
      obtain ⟨calls, rfl⟩ := Nat.exists_eq_succ_of_ne_zero (Nat.ne_zero_of_lt enough)
      obtain ⟨here, behind⟩ := List.forall_mem_cons.mp restored
      cases items with
      | nil =>
          have atMost : (writeChars item).length ≤ calls := Nat.le_of_lt_succ enough
          have read := here calls (']' :: rest) (.bracket rest) atMost
          rw [writeItems, readItems_last read, List.reverse_cons]
      | cons second others =>
          have wholeOthers := (List.forall_mem_cons.mp whole).2
          have begun := (begun_writeItems (by simp) wholeOthers).append (']' :: rest)
          rw [writeItems_more, List.length_append, List.length_cons] at enough
          have read := here calls (',' :: (writeItems (second :: others) ++ ']' :: rest))
            (.comma _) (by omega)
          rw [writeItems_more, List.append_assoc, List.cons_append, readItems_more read begun,
            induction (by simp) wholeOthers behind (by omega), List.reverse_cons,
            List.append_assoc, List.singleton_append]

/-- A member with a greater name than all before it comes last. -/
theorem Members.insert_greatest {name : String} {before : Members}
    (greatest : ∀ member ∈ before, member.1 < name) (value : Json) :
    before.insert name value = before ++ [(name, value)] := by
  induction before with
  | nil => rfl
  | cons member before induction =>
      obtain ⟨less, behind⟩ := List.forall_mem_cons.mp greatest
      have different : name ≠ member.1 := by
        intro same
        exact String.lt_irrefl name (same ▸ less)
      have notLess : ¬ name < member.1 := String.lt_asymm less
      rw [Members.insert, if_neg different, if_neg notLess, induction behind, List.cons_append]

theorem readMembers_written {members before : Members} (nonempty : members ≠ [])
    (sorted : (before ++ members).Sorted)
    (restored : ∀ member ∈ members, Restored levels member.2)
    (enough : (writeMembers members).length < calls) (rest : List Char) :
    readMembers calls levels before (writeMembers members ++ '\x7d' :: rest) =
      .ok (.object (before ++ members), rest) := by
  induction members generalizing calls before with
  | nil => contradiction
  | cons member members induction =>
      obtain ⟨calls, rfl⟩ := Nat.exists_eq_succ_of_ne_zero (Nat.ne_zero_of_lt enough)
      obtain ⟨here, behind⟩ := List.forall_mem_cons.mp restored
      have inserted : before.insert member.1 member.2 = before ++ [member] := by
        apply Members.insert_greatest
        intro other isBefore
        exact (List.pairwise_append.mp sorted).2.2 other isBefore member List.mem_cons_self
      cases members with
      | nil =>
          have length := length_writeMember member
          rw [writeMembers] at enough ⊢
          have read := here calls ('\x7d' :: rest) (.brace rest) (by omega)
          rw [writeMember_append, readMembers_last (by omega) read, inserted]
      | cons second others =>
          have length := length_writeMember member
          have nonempty := List.cons_ne_nil second others
          have begun := (begun_writeMembers nonempty).append ('\x7d' :: rest)
          rw [writeMembers_more, List.length_append, List.length_cons] at enough
          have read := here calls (',' :: (writeMembers (second :: others) ++ '\x7d' :: rest))
            (.comma _) (by omega)
          rw [writeMembers_more, List.append_assoc, List.cons_append, writeMember_append,
            readMembers_more (by omega) read begun, inserted,
            induction nonempty (by simpa using sorted) behind (by omega),
            List.append_assoc, List.singleton_append]

/-! ## Values -/

theorem readValue_digit {first : Char} (isDigit : first.isDigit = true) (rest : List Char) :
    readValue (calls + 1) levels (first :: rest) = readMagnitude false (first :: rest) := by
  rw [readValue, (begun_of_isDigit isDigit rest).skipSpace]
  split
  case h_9 characters _ _ _ _ _ _ _ same =>
    cases same
    exact if_pos isDigit
  case h_1 same => cases same
  all_goals
    next same =>
      cases same
      cases isDigit

theorem readValue_integer (word : WordInteger) {rest : List Char}
    (delimited : Delimited rest) :
    readValue (calls + 1) levels (Text.numeralChars word.value ++ rest) =
      .ok (.integer word, rest) := by
  cases value : word.value with
  | ofNat magnitude =>
      obtain ⟨first, more, written, isDigit⟩ := Text.digits_eq_cons magnitude
      have read : readMagnitude false (Text.digits magnitude ++ rest) =
          .ok (.integer word, rest) :=
        readMagnitude_digits (by simp [value]) (by simp) delimited
      rw [Text.numeralChars]
      rw [written, List.cons_append] at read ⊢
      rw [readValue_digit isDigit, read]
  | negSucc magnitude =>
      have read : readMagnitude true (Text.digits (magnitude + 1) ++ rest) =
          .ok (.integer word, rest) :=
        readMagnitude_digits (by simp [value]; omega) (by simp) delimited
      exact read

theorem readValue_minusZero {rest : List Char} (delimited : Delimited rest) :
    readValue (calls + 1) levels (writeChars (.real (Binary64.zero true)) ++ rest) =
      .ok (.real (Binary64.zero true), rest) :=
  readMagnitude_zero delimited

/-- Every value takes a call to enter it, which its first character pays for. -/
theorem Whole.restored {value : Json} (whole : Whole value)
    (entered : ∀ calls rest, Delimited rest → (writeChars value).length ≤ calls + 1 →
      readValue (calls + 1) levels (writeChars value ++ rest) = .ok (value, rest)) :
    Restored levels value := by
  intro calls rest delimited enough
  have positive := whole.begun.length_pos
  obtain ⟨calls, rfl⟩ := Nat.exists_eq_succ_of_ne_zero (by omega : calls ≠ 0)
  exact entered calls rest delimited enough

theorem restored_array {items : List Json} (whole : ∀ item ∈ items, Whole item)
    (restored : ∀ item ∈ items, Restored levels item) :
    Restored (levels + 1) (.array items) := by
  apply (Whole.array whole).restored
  intro calls rest delimited enough
  cases items with
  | nil => rfl
  | cons item others =>
      have nonempty := List.cons_ne_nil item others
      have begun := (begun_writeItems nonempty whole).append (']' :: rest)
      rw [writeChars, List.length_append, List.length_cons, List.length_singleton] at enough
      rw [writeChars, List.append_assoc, List.cons_append, List.singleton_append,
        readValue_array begun]
      exact readItems_written nonempty whole restored (by omega) [] rest

theorem restored_object {members : Members} (sorted : members.Sorted)
    (whole : ∀ member ∈ members, Whole member.2)
    (restored : ∀ member ∈ members, Restored levels member.2) :
    Restored (levels + 1) (.object members) := by
  apply (Whole.object whole).restored
  intro calls rest delimited enough
  cases members with
  | nil => rfl
  | cons member others =>
      have nonempty := List.cons_ne_nil member others
      have begun := (begun_writeMembers nonempty).append ('\x7d' :: rest)
      rw [writeChars, List.length_append, List.length_cons, List.length_singleton] at enough
      rw [writeChars, List.append_assoc, List.cons_append, List.singleton_append,
        readValue_object begun]
      exact readMembers_written nonempty sorted restored (by omega) rest

/-- By induction on the nesting. -/
theorem Nests.restored {value : Json} (nests : Nests levels value) (whole : Whole value) :
    Restored levels value := by
  induction nests with
  | null levels => exact whole.restored fun _ _ _ _ => rfl
  | bool levels value =>
      apply whole.restored
      intro calls rest delimited enough
      cases value <;> rfl
  | integer levels word =>
      exact whole.restored fun calls rest delimited _ => readValue_integer word delimited
  | real levels number =>
      cases whole
      exact Whole.minusZero.restored fun calls rest delimited _ => readValue_minusZero delimited
  | string levels text =>
      apply whole.restored
      intro calls rest delimited enough
      rw [writeChars, writeString_eq, List.length_cons] at enough
      exact readValue_string (Nat.le_of_succ_le_succ enough) rest
  | array within induction =>
      have whole := whole_array.mp whole
      exact restored_array whole fun item member => induction item member (whole item member)
  | object sorted within induction =>
      have whole := whole_object.mp whole
      exact restored_object sorted whole fun member isMember =>
        induction member isMember (whole member isMember)

/-- The compact text of a value denotes it. -/
theorem read_compact {value : Json} (nests : Nests messageLevels value) (whole : Whole value) :
    Json.read value.compact = .ok value := by
  have enough : (writeChars value).length ≤ 2 * (writeChars value).length + 2 := by omega
  have read := nests.restored whole _ [] .nothing enough
  rw [List.append_nil] at read
  rw [Json.read, readWithin, compact_toList, readChars, read]
  rfl

end Pacing.Json
