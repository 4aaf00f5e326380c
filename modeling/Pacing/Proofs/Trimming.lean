import Mathlib.Data.List.DropRight
import Pacing.Text.Blank

/-!
# Trimmed texts

Trimming takes away what is blank at the two ends of a text and nothing else.  So a text that
holds anything but blank characters is a margin, then what trimming leaves, then another
margin, and there is only one way to divide it like this.
-/

namespace Pacing.Text

theorem trimChars_eq (characters : List Char) :
    trimChars characters = (characters.dropWhile isBlankChar).rdropWhile isBlankChar := rfl

theorem dropWhile_trimChars (characters : List Char) :
    (trimChars characters).dropWhile isBlankChar = trimChars characters := by
  let front := characters.dropWhile isBlankChar
  have isPrefix : front.rdropWhile isBlankChar <+: front := List.rdropWhile_prefix ..
  rw [trimChars_eq, List.dropWhile_eq_self_iff]
  intro filled
  have first : front.dropWhile isBlankChar = front := List.dropWhile_idempotent _ _
  have inFront : 0 < front.length := filled.trans_le isPrefix.length_le
  rw [isPrefix.getElem filled]
  exact List.dropWhile_eq_self_iff.mp first inFront

/-- What is left by trimming begins and ends with characters that are not blank. -/
theorem trimChars_idempotent (characters : List Char) :
    trimChars (trimChars characters) = trimChars characters := by
  rw [trimChars_eq (trimChars characters), dropWhile_trimChars, trimChars_eq]
  exact List.rdropWhile_idempotent _ _

theorem trim_trim (text : String) : trim (trim text) = trim text := by
  apply String.toList_injective
  rw [trim_toList, trim_toList, trimChars_idempotent]

theorem isBlank_iff (text : String) : isBlank text = true ↔ trimChars text.toList = [] := by
  rw [isBlank, List.all_eq_true, trimChars_eq, List.rdropWhile_eq_nil_iff,
    ← List.dropWhile_eq_nil_iff, ← List.dropWhile_eq_nil_iff, List.dropWhile_idempotent]

theorem isBlank_trim (text : String) : isBlank (trim text) = isBlank text := by
  rw [Bool.eq_iff_iff, isBlank_iff, isBlank_iff, trim_toList, trimChars_idempotent]

/-! ## Margins -/

/-- A text without its margins: they are blank, and neither the first nor the last character
between them is. -/
structure Trimmed (raw text : String) : Prop where
  exists_margins : ∃ front back, raw.toList = front ++ text.toList ++ back ∧
    (∀ character ∈ front, isBlankChar character = true) ∧
    ∀ character ∈ back, isBlankChar character = true
  filled : text.toList ≠ []
  first : isBlankChar (text.toList.head filled) = false
  last : isBlankChar (text.toList.getLast filled) = false

theorem Trimmed.trim_eq {raw text : String} (trimmed : Trimmed raw text) : trim raw = text := by
  obtain ⟨⟨front, back, isRaw, frontBlank, backBlank⟩, filled, first, last⟩ := trimmed
  have begins : (text.toList ++ back).dropWhile isBlankChar = text.toList ++ back := by
    obtain ⟨character, rest, isText⟩ := List.exists_cons_of_ne_nil filled
    simp only [isText, List.head_cons] at first
    rw [isText, List.cons_append, List.dropWhile_cons_of_neg (by simp [first])]
  have ends : text.toList.rdropWhile isBlankChar = text.toList := by
    rw [List.rdropWhile_eq_self_iff]
    exact fun _ => by simp [last]
  apply String.toList_injective
  rw [trim_toList, trimChars_eq, isRaw, List.append_assoc, List.dropWhile_append_of_pos frontBlank,
    begins, List.rdropWhile, List.reverse_append,
    List.dropWhile_append_of_pos (by simpa using backBlank)]
  exact ends

theorem trimmed_trim {raw : String} (filled : isBlank raw = false) : Trimmed raw (trim raw) := by
  have isTrimmed : (trim raw).toList =
      (raw.toList.dropWhile isBlankChar).rdropWhile isBlankChar := trim_toList raw
  have notEmpty : (trim raw).toList ≠ [] := by
    rw [trim_toList]
    exact fun empty => by simp [(isBlank_iff raw).mpr empty] at filled
  refine ⟨⟨raw.toList.takeWhile isBlankChar,
    (raw.toList.dropWhile isBlankChar).rtakeWhile isBlankChar, ?parts,
    fun _ => List.mem_takeWhile_imp, fun _ => List.mem_rtakeWhile_imp⟩, notEmpty, ?first, ?last⟩
  case parts =>
    rw [isTrimmed, List.append_assoc, List.rdropWhile_append_rtakeWhile,
      List.takeWhile_append_dropWhile]
  case first =>
    have begins : (trim raw).toList.dropWhile isBlankChar = (trim raw).toList := by
      rw [trim_toList, dropWhile_trimChars]
    rw [List.head_eq_getElem, ← Bool.not_eq_true]
    exact List.dropWhile_eq_self_iff.mp begins _
  case last =>
    rw [← Bool.not_eq_true]
    simp only [isTrimmed] at notEmpty ⊢
    exact List.rdropWhile_last_not _ _ notEmpty

theorem Trimmed.isBlank_eq {raw text : String} (trimmed : Trimmed raw text) :
    isBlank text = false := by
  rw [← Bool.not_eq_true]
  intro blank
  have first := List.all_eq_true.mp blank _ (List.head_mem trimmed.filled)
  rw [trimmed.first] at first
  cases first

/-- A text is taken apart in one way: what trimming leaves, unless it is blank, and the
margins. -/
theorem trimmed_iff {raw text : String} :
    Trimmed raw text ↔ isBlank raw = false ∧ trim raw = text := by
  constructor
  · intro trimmed
    refine ⟨?_, trimmed.trim_eq⟩
    rw [← isBlank_trim, trimmed.trim_eq]
    exact trimmed.isBlank_eq
  · rintro ⟨filled, rfl⟩
    exact trimmed_trim filled

end Pacing.Text
