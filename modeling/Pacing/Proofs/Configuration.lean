import Mathlib.Data.List.Forall2
import Pacing.Proofs.Backoff
import Pacing.Proofs.Defects
import Pacing.Proofs.Numerals
import Pacing.Proofs.Trimming
import Pacing.Settings

/-!
# Which settings are accepted

Five of the settings can be defective, two of them by not being set, and the first one that is
decides the error.  The two settings about the recording of delays cannot be wrong: they only
choose a namespace.  Whatever is accepted can be worked with, since the policy for retries is
brought into order where it is not.
-/

namespace Pacing.Settings

/-! ## What a setting says -/

/-- A setting has a text, which is not blank and has no margins. -/
structure SetTo (lookup : Lookup) (name text : String) : Prop where
  exists_raw : ∃ raw, lookup name = some raw ∧ Text.Trimmed raw text

/-- A setting is not set, or its text is blank. -/
def Unset (lookup : Lookup) (name : String) : Prop :=
  ∀ raw, lookup name = some raw → Text.isBlank raw = true

/-- The value of a setting that may be left out. -/
inductive Chosen {Value : Type} (lookup : Lookup) (name : String)
    (Means : String → Value → Prop) (default : Value) : Value → Prop where
  | set {text : String} {value : Value} (isSet : SetTo lookup name text)
      (means : Means text value) : Chosen lookup name Means default value
  | unset (isUnset : Unset lookup name) : Chosen lookup name Means default default

/-- A text denotes a number of attempts. -/
def Attempts (text : String) (attempts : UInt32) : Prop :=
  Text.Denotes .unsigned32 text attempts.toNat

/-- A text denotes a number of milliseconds, which are so many nanoseconds. -/
def Milliseconds (text : String) (nanos : Nat) : Prop :=
  ∃ millis : UInt64, Text.Denotes .unsigned64 text millis.toNat ∧
    nanos = millis.toNat * 1000000

/-- A text is a word with its ASCII letters in any case. -/
def InAnyCase (word text : String) : Prop :=
  List.Forall₂ (fun letter character => character = letter ∨ character = letter.toUpper)
    word.toList text.toList

/-- The recording of delays is switched on by one of four words. -/
structure Enabled (lookup : Lookup) : Prop where
  exists_word : ∃ text, SetTo lookup enableMetricsName text ∧
    ∃ word ∈ ["true", "yes", "1", "on"], InAnyCase word text

/-- The namespace in which delays are recorded, if they are. -/
inductive Recorded (lookup : Lookup) : Option String → Prop where
  | enabled {metricsNamespace : String} (enabled : Enabled lookup)
      (chosen : Chosen lookup metricsNamespaceName Eq defaultMetricsNamespace metricsNamespace) :
      Recorded lookup (some metricsNamespace)
  | disabled (disabled : ¬ Enabled lookup) : Recorded lookup none

/-- What the settings are, if there is nothing wrong with them.  The policy for retries has
at least one attempt, and a maximum that is at least the base delay. -/
structure Configures (lookup : Lookup) (settings : Settings) : Prop where
  waitThreshold : ∃ text, SetTo lookup waitThresholdName text ∧
    Text.Denotes .unsigned64 text settings.waitThreshold.toNat
  tableName : SetTo lookup tableNameName settings.tableName
  metricsNamespace : Recorded lookup settings.metricsNamespace
  attempts : ∃ attempts, Chosen lookup maxAttemptsName Attempts 5 attempts ∧
    settings.retry.maxAttempts.toNat = max attempts.toNat 1
  baseDelay : Chosen lookup retryBaseName Milliseconds (100 * 1000000)
    settings.retry.baseDelay.toNanos
  maxDelay : ∃ nanos, Chosen lookup retryMaxName Milliseconds (2000 * 1000000) nanos ∧
    settings.retry.maxDelay.toNanos = max settings.retry.baseDelay.toNanos nanos

/-- The text of a setting, if it is set, denotes a number of a range. -/
def Numeric (lookup : Lookup) (name : String) (range : Text.IntegerRange) : Prop :=
  ∀ text, SetTo lookup name text → ∃ value, Text.Denotes range text value

/-- Both required settings are set, and those that are numbers are in their ranges. -/
structure Acceptable (lookup : Lookup) : Prop where
  thresholdSet : ∃ text, SetTo lookup waitThresholdName text
  threshold : Numeric lookup waitThresholdName .unsigned64
  tableSet : ∃ text, SetTo lookup tableNameName text
  attempts : Numeric lookup maxAttemptsName .unsigned32
  base : Numeric lookup retryBaseName .unsigned64
  longest : Numeric lookup retryMaxName .unsigned64

/-- The settings that can be defective, in the order in which they are looked at. -/
def checkedNames : List String :=
  [waitThresholdName, tableNameName, maxAttemptsName, retryBaseName, retryMaxName]

def requiredNames : List String := [waitThresholdName, tableNameName]

/-- The range of a setting that is a number. -/
def range? (name : String) : Option Text.IntegerRange :=
  [(waitThresholdName, Text.IntegerRange.unsigned64), (maxAttemptsName, .unsigned32),
    (retryBaseName, .unsigned64), (retryMaxName, .unsigned64)].lookup name

/-- What is wrong with a setting. -/
inductive Defective (lookup : Lookup) : String → SchedulerError → Prop where
  | missing {name : String} (required : name ∈ requiredNames) (isUnset : Unset lookup name) :
      Defective lookup name (.missingConfiguration name)
  | noNumber {name text : String} {range : Text.IntegerRange} {cause : Text.NumeralError}
      (isNumber : range? name = some range) (isSet : SetTo lookup name text)
      (refused : Text.Refused range text cause) :
      Defective lookup name (.invalidConfiguration name
        ("'" ++ text ++ "' is not a non-negative integer: " ++ cause.message))

section Texts

variable {lookup : Lookup} {name text : String}

theorem setting?_eq_some_iff : setting? lookup name = some text ↔ SetTo lookup name text := by
  unfold setting?
  constructor
  · intro found
    split at found
    · cases found
    · next raw isRaw =>
        split at found
        · cases found
        · next filled =>
            cases found
            exact ⟨raw, isRaw, Text.trimmed_trim (Bool.eq_false_of_not_eq_true filled)⟩
  · rintro ⟨raw, isRaw, trimmed⟩
    obtain ⟨filled, rfl⟩ := Text.trimmed_iff.mp trimmed
    simp [isRaw, filled]

theorem setting?_eq_none_iff : setting? lookup name = none ↔ Unset lookup name := by
  unfold setting? Unset
  cases lookup name with
  | none => simp
  | some raw => simp

theorem SetTo.unique {other : String} (isSet : SetTo lookup name text)
    (again : SetTo lookup name other) : text = other := by
  rw [← setting?_eq_some_iff] at isSet again
  exact Option.some.inj (isSet.symm.trans again)

theorem SetTo.not_unset (isSet : SetTo lookup name text) : ¬ Unset lookup name := by
  rw [← setting?_eq_some_iff] at isSet
  rw [← setting?_eq_none_iff, isSet]
  exact nofun

theorem SetTo.isBlank_eq (isSet : SetTo lookup name text) : Text.isBlank text = false := by
  obtain ⟨raw, -, trimmed⟩ := isSet
  exact trimmed.isBlank_eq

theorem setTo_or_unset (lookup : Lookup) (name : String) :
    (∃ text, SetTo lookup name text) ∨ Unset lookup name := by
  cases found : setting? lookup name with
  | none => exact .inr (setting?_eq_none_iff.mp found)
  | some text => exact .inl ⟨text, setting?_eq_some_iff.mp found⟩

theorem require_of_set (isSet : SetTo lookup name text) : require lookup name = .ok text := by
  unfold require
  rw [setting?_eq_some_iff.mpr isSet]

theorem require_of_unset (isUnset : Unset lookup name) :
    require lookup name = .error (.missingConfiguration name) := by
  unfold require
  rw [setting?_eq_none_iff.mpr isUnset]

theorem require_eq_ok_iff : require lookup name = .ok text ↔ SetTo lookup name text := by
  constructor
  · intro succeeds
    rcases setTo_or_unset lookup name with ⟨other, isSet⟩ | isUnset
    · rw [require_of_set isSet] at succeeds
      cases succeeds
      exact isSet
    · rw [require_of_unset isUnset] at succeeds
      cases succeeds
  · exact require_of_set

end Texts

/-! ## Defects -/

section Defects

variable {lookup : Lookup} {name text : String} {error : SchedulerError}
  {range : Text.IntegerRange} {Value : Type} {read : String → Except Text.NumeralError Value}

theorem defective_of_unset_iff (isUnset : Unset lookup name) :
    Defective lookup name error ↔
      name ∈ requiredNames ∧ error = .missingConfiguration name := by
  constructor
  · intro defective
    cases defective with
    | missing required => exact ⟨required, rfl⟩
    | noNumber _ isSet => exact absurd isUnset isSet.not_unset
  · rintro ⟨required, rfl⟩
    exact .missing required isUnset

theorem defective_of_set_iff (isSet : SetTo lookup name text)
    (isNumber : range? name = some range) :
    Defective lookup name error ↔
      ∃ cause, Text.Refused range text cause ∧
        error = .invalidConfiguration name
          ("'" ++ text ++ "' is not a non-negative integer: " ++ cause.message) := by
  constructor
  · intro defective
    cases defective with
    | missing _ isUnset => exact absurd isUnset isSet.not_unset
    | noNumber renumbered reset refused =>
        obtain rfl := isSet.unique reset
        obtain rfl := Option.some.inj (isNumber.symm.trans renumbered)
        exact ⟨_, refused, rfl⟩
  · rintro ⟨cause, refused, rfl⟩
    exact .noNumber isNumber isSet refused

theorem number_eq_ok_iff {value : Value} :
    number read name text = .ok value ↔ read text = .ok value := by
  unfold number
  cases read text <;> simp [Except.mapError]

theorem number_eq_error_iff (isSet : SetTo lookup name text)
    (isNumber : range? name = some range)
    (refuses : ∀ text cause, read text = .error cause ↔ Text.Refused range text cause) :
    number read name text = .error error ↔ Defective lookup name error := by
  rw [defective_of_set_iff isSet isNumber]
  simp only [← refuses]
  unfold number
  cases read text with
  | error cause => simp [Except.mapError, eq_comm]
  | ok value => simp [Except.mapError]

/-! ### Required settings -/

theorem require_tableName_eq_error_iff :
    require lookup tableNameName = .error error ↔ Defective lookup tableNameName error := by
  rcases setTo_or_unset lookup tableNameName with ⟨text, isSet⟩ | isUnset
  · rw [require_of_set isSet]
    refine ⟨nofun, ?_⟩
    intro defective
    cases defective with
    | missing _ isUnset => exact absurd isUnset isSet.not_unset
    | noNumber isNumber => cases isNumber
  · rw [require_of_unset isUnset, defective_of_unset_iff isUnset]
    have required : tableNameName ∈ requiredNames := by decide
    simp [required, eq_comm]

theorem readWaitThreshold_of_set (isSet : SetTo lookup waitThresholdName text) :
    readWaitThreshold lookup = number Text.readUInt64 waitThresholdName text := by
  unfold readWaitThreshold
  rw [require_of_set isSet]
  rfl

theorem readWaitThreshold_of_unset (isUnset : Unset lookup waitThresholdName) :
    readWaitThreshold lookup = .error (.missingConfiguration waitThresholdName) := by
  unfold readWaitThreshold
  rw [require_of_unset isUnset]
  rfl

theorem readWaitThreshold_eq_ok_iff {threshold : UInt64} :
    readWaitThreshold lookup = .ok threshold ↔
      ∃ text, SetTo lookup waitThresholdName text ∧
        Text.Denotes .unsigned64 text threshold.toNat := by
  constructor
  · intro succeeds
    rcases setTo_or_unset lookup waitThresholdName with ⟨text, isSet⟩ | isUnset
    · rw [readWaitThreshold_of_set isSet, number_eq_ok_iff] at succeeds
      exact ⟨text, isSet, Text.readUInt64_eq_ok_iff.mp succeeds⟩
    · rw [readWaitThreshold_of_unset isUnset] at succeeds
      cases succeeds
  · rintro ⟨text, isSet, denotes⟩
    rw [readWaitThreshold_of_set isSet, number_eq_ok_iff]
    exact Text.readUInt64_eq_ok_iff.mpr denotes

theorem readWaitThreshold_eq_error_iff :
    readWaitThreshold lookup = .error error ↔ Defective lookup waitThresholdName error := by
  rcases setTo_or_unset lookup waitThresholdName with ⟨text, isSet⟩ | isUnset
  · rw [readWaitThreshold_of_set isSet]
    exact number_eq_error_iff isSet rfl fun _ _ => Text.readUInt64_eq_error_iff
  · rw [readWaitThreshold_of_unset isUnset, defective_of_unset_iff isUnset]
    have required : waitThresholdName ∈ requiredNames := by decide
    simp [required, eq_comm]

/-! ### Settings that may be left out -/

variable {default value : Value}

theorem numberOr_of_set (isSet : SetTo lookup name text) :
    numberOr lookup read name default = number read name text := by
  unfold numberOr
  rw [setting?_eq_some_iff.mpr isSet]

theorem numberOr_of_unset (isUnset : Unset lookup name) :
    numberOr lookup read name default = .ok default := by
  unfold numberOr
  rw [setting?_eq_none_iff.mpr isUnset]

theorem numberOr_eq_ok_iff {Means : String → Value → Prop}
    (reads : ∀ text value, read text = .ok value ↔ Means text value) :
    numberOr lookup read name default = .ok value ↔
      Chosen lookup name Means default value := by
  constructor
  · intro succeeds
    rcases setTo_or_unset lookup name with ⟨text, isSet⟩ | isUnset
    · rw [numberOr_of_set isSet, number_eq_ok_iff] at succeeds
      exact .set isSet ((reads text value).mp succeeds)
    · rw [numberOr_of_unset isUnset] at succeeds
      cases succeeds
      exact .unset isUnset
  · intro chosen
    cases chosen with
    | set isSet means =>
        rw [numberOr_of_set isSet, number_eq_ok_iff]
        exact (reads _ value).mpr means
    | unset isUnset => exact numberOr_of_unset isUnset

/-- A chosen value is known by an injective view of it. -/
theorem chosen_view_iff {View : Type} {view : Value → View} {Means : String → View → Prop}
    (injective : Function.Injective view) :
    Chosen lookup name (fun text value => Means text (view value)) default value ↔
      Chosen lookup name Means (view default) (view value) := by
  constructor
  · intro chosen
    cases chosen with
    | set isSet means => exact .set isSet means
    | unset isUnset => exact .unset isUnset
  · generalize same : view value = viewed
    intro chosen
    cases chosen with
    | set isSet means => exact .set isSet (same ▸ means)
    | unset isUnset =>
        obtain rfl := injective same
        exact .unset isUnset

theorem numberOr_eq_error_iff (isNumber : range? name = some range)
    (optional : name ∉ requiredNames)
    (refuses : ∀ text cause, read text = .error cause ↔ Text.Refused range text cause) :
    numberOr lookup read name default = .error error ↔ Defective lookup name error := by
  rcases setTo_or_unset lookup name with ⟨text, isSet⟩ | isUnset
  · rw [numberOr_of_set isSet]
    exact number_eq_error_iff isSet isNumber refuses
  · rw [numberOr_of_unset isUnset, defective_of_unset_iff isUnset]
    exact ⟨nofun, fun defective => absurd defective.1 optional⟩

theorem readMillis_eq_ok_iff (text : String) (span : Span) :
    (Text.readUInt64 text).map Span.ofMillis = .ok span ↔ Milliseconds text span.toNanos := by
  unfold Milliseconds
  simp only [← Text.readUInt64_eq_ok_iff, ← Span.toNanos_ofMillis, Span.toNanos_injective.eq_iff]
  cases Text.readUInt64 text with
  | error cause => simp [Except.map]
  | ok millis => simp [Except.map, eq_comm]

theorem delay_eq_ok_iff {default span : Span} :
    numberOr lookup (fun text => (Text.readUInt64 text).map Span.ofMillis) name default =
        .ok span ↔
      Chosen lookup name Milliseconds default.toNanos span.toNanos := by
  rw [numberOr_eq_ok_iff readMillis_eq_ok_iff, chosen_view_iff Span.toNanos_injective]

theorem exists_delay {default : Span} {nanos : Nat}
    (chosen : Chosen lookup name Milliseconds default.toNanos nanos) :
    ∃ span : Span, span.toNanos = nanos := by
  cases chosen with
  | set isSet means =>
      obtain ⟨millis, -, rfl⟩ := means
      exact ⟨_, Span.toNanos_ofMillis millis⟩
  | unset isUnset => exact ⟨default, rfl⟩

theorem toNanos_defaultBaseDelay : RetryPolicy.defaultBaseDelay.toNanos = 100 * 1000000 :=
  Span.toNanos_ofMillis 100

theorem toNanos_defaultMaxDelay : RetryPolicy.defaultMaxDelay.toNanos = 2000 * 1000000 :=
  Span.toNanos_ofMillis 2000

theorem readMillis_eq_error_iff (text : String) (cause : Text.NumeralError) :
    (Text.readUInt64 text).map Span.ofMillis = .error cause ↔
      Text.Refused .unsigned64 text cause := by
  rw [← Text.readUInt64_eq_error_iff]
  cases Text.readUInt64 text <;> simp [Except.map]

end Defects

/-! ## The recording of delays -/

section Recording

theorem toNat_toLower (character : Char) :
    character.toLower.toNat =
      if 65 ≤ character.toNat ∧ character.toNat ≤ 90 then character.toNat + 32
      else character.toNat := by
  have isNat : character.toNat = character.val.toNat := rfl
  rw [isNat]
  unfold Char.toLower
  split
  · next upper =>
      have bounds : 65 ≤ character.val.toNat ∧ character.val.toNat ≤ 90 := upper
      rw [if_pos bounds]
      change (character.val + 32).toNat = _
      rw [UInt32.toNat_add]
      exact Nat.mod_eq_of_lt (by simp; omega)
  · next other =>
      have bounds : ¬ (65 ≤ character.val.toNat ∧ character.val.toNat ≤ 90) := other
      rw [if_neg bounds]
      rfl

theorem toNat_toUpper (character : Char) :
    character.toUpper.toNat =
      if 97 ≤ character.toNat ∧ character.toNat ≤ 122 then character.toNat - 32
      else character.toNat := by
  have isNat : character.toNat = character.val.toNat := rfl
  rw [isNat]
  unfold Char.toUpper
  split
  · next lower =>
      have bounds : 97 ≤ character.val.toNat ∧ character.val.toNat ≤ 122 := lower
      rw [if_pos bounds]
      change (character.val + 4294967264).toNat = _
      rw [UInt32.toNat_add]
      change (character.val.toNat + 4294967264) % 4294967296 = _
      omega
  · next other =>
      have bounds : ¬ (97 ≤ character.val.toNat ∧ character.val.toNat ≤ 122) := other
      rw [if_neg bounds]
      rfl

/-- The characters that fold to a letter are the letter in both cases. -/
theorem toLower_eq_iff {letter : Char} (lower : letter.toLower = letter) (character : Char) :
    character.toLower = letter ↔ character = letter ∨ character = letter.toUpper := by
  rw [← Char.toNat_inj, toNat_toLower] at lower
  rw [← Char.toNat_inj, ← Char.toNat_inj, ← Char.toNat_inj, toNat_toLower, toNat_toUpper]
  split at lower
  · omega
  · split
    · split <;> omega
    · split <;> omega

/-- A text folds to a word of lower-case letters if it is the word in any case. -/
theorem inAnyCase_iff {word : String}
    (folds : word.toList.all (fun letter => letter.toLower = letter) = true) (text : String) :
    InAnyCase word text ↔ String.ofList (text.toList.map Char.toLower) = word := by
  -- The condition is a Boolean since a quantifier over characters may be decided by going
  -- through all of them.
  have lower : ∀ letter ∈ word.toList, letter.toLower = letter := by simpa using folds
  have folded : String.ofList (text.toList.map Char.toLower) = word ↔
      List.Forall₂ (fun letter character => letter = character.toLower) word.toList
        text.toList := by
    rw [← List.forall₂_map_right_iff, List.forall₂_eq_eq_eq, ← String.toList_inj,
      String.toList_ofList, eq_comm]
  rw [folded]
  unfold InAnyCase
  constructor
  · intro cases
    refine ((List.forall₂_and_left _ _).mpr ⟨lower, cases⟩).imp ?_
    exact fun letter character both => ((toLower_eq_iff both.1 character).mpr both.2).symm
  · intro same
    refine ((List.forall₂_and_left _ _).mpr ⟨lower, same⟩).imp ?_
    exact fun letter character both => (toLower_eq_iff both.1 character).mp both.2.symm

theorem isTruthy_iff (text : String) :
    isTruthy text = true ↔ ∃ word ∈ ["true", "yes", "1", "on"], InAnyCase word text := by
  have folds : ∀ word ∈ ["true", "yes", "1", "on"],
      word.toList.all (fun letter => letter.toLower = letter) = true := by
    decide
  unfold isTruthy
  rw [List.contains_iff_mem]
  constructor
  · intro member
    exact ⟨_, member, (inAnyCase_iff (folds _ member) text).mpr rfl⟩
  · rintro ⟨word, member, cases⟩
    rwa [(inAnyCase_iff (folds word member) text).mp cases]

variable {lookup : Lookup}

theorem enabled_iff :
    Enabled lookup ↔ ((setting? lookup enableMetricsName).map isTruthy).getD false = true := by
  constructor
  · rintro ⟨text, isSet, truthy⟩
    rw [setting?_eq_some_iff.mpr isSet]
    exact (isTruthy_iff text).mpr truthy
  · intro truthy
    cases found : setting? lookup enableMetricsName with
    | none =>
        rw [found] at truthy
        cases truthy
    | some text =>
        rw [found] at truthy
        exact ⟨text, setting?_eq_some_iff.mp found, (isTruthy_iff text).mp truthy⟩

theorem chosen_text {name default : String} :
    Chosen lookup name Eq default ((setting? lookup name).getD default) := by
  cases found : setting? lookup name with
  | none => exact .unset (setting?_eq_none_iff.mp found)
  | some text => exact .set (setting?_eq_some_iff.mp found) rfl

theorem Chosen.text_unique {name default text other : String}
    (chosen : Chosen lookup name Eq default text) (again : Chosen lookup name Eq default other) :
    text = other := by
  cases chosen with
  | set isSet means =>
      cases again with
      | set reset remeans => rw [← means, ← remeans, isSet.unique reset]
      | unset isUnset => exact absurd isUnset isSet.not_unset
  | unset isUnset =>
      cases again with
      | set isSet => exact absurd isUnset isSet.not_unset
      | unset => rfl

theorem recorded_iff {recorded : Option String} :
    Recorded lookup recorded ↔ metricsNamespace? lookup = recorded := by
  unfold metricsNamespace?
  by_cases enabled : Enabled lookup
  · rw [if_pos (enabled_iff.mp enabled)]
    constructor
    · intro isRecorded
      cases isRecorded with
      | enabled _ chosen => rw [chosen.text_unique chosen_text]
      | disabled disabled => exact absurd enabled disabled
    · rintro rfl
      exact .enabled enabled chosen_text
  · rw [if_neg (mt enabled_iff.mpr enabled)]
    constructor
    · intro isRecorded
      cases isRecorded with
      | enabled isEnabled => exact absurd isEnabled enabled
      | disabled => rfl
    · rintro rfl
      exact .disabled enabled

end Recording

/-! ## All settings -/

section All

variable {lookup : Lookup} {settings : Settings}

theorem read_reports (lookup : Lookup) :
    Reports (Defective lookup) checkedNames (read lookup) := by
  apply Reports.bind fun _ => readWaitThreshold_eq_error_iff
  intro waitThreshold _
  apply Reports.bind fun _ => require_tableName_eq_error_iff
  intro tableName _
  apply Reports.bind fun _ => numberOr_eq_error_iff rfl (by decide) fun _ _ =>
    Text.readUInt32_eq_error_iff
  intro maxAttempts _
  apply Reports.bind fun _ => numberOr_eq_error_iff rfl (by decide) readMillis_eq_error_iff
  intro baseDelay _
  apply Reports.bind fun _ => numberOr_eq_error_iff rfl (by decide) readMillis_eq_error_iff
  intro maxDelay _
  exact Reports.of_ok _

/-- The policy that is made of three numbers, told without the spans that are made on the way. -/
theorem retry_eq_of_iff {policy : RetryPolicy} {attempts : UInt32} {base longest : Span} :
    policy = RetryPolicy.of attempts base longest ↔
      policy.maxAttempts.toNat = max attempts.toNat 1 ∧ policy.baseDelay = base ∧
        policy.maxDelay.toNanos = max base.toNanos longest.toNanos := by
  have raised : (if attempts = 0 then 1 else attempts).toNat = max attempts.toNat 1 := by
    split
    · next none =>
        rw [none]
        rfl
    · next some =>
        have positive : attempts.toNat ≠ 0 := fun none => some (UInt32.toNat_inj.mp none)
        omega
  obtain ⟨maxAttempts, baseDelay, maxDelay⟩ := policy
  rw [RetryPolicy.of, RetryPolicy.mk.injEq, ← raised, UInt32.toNat_inj, max_comm base.toNanos,
    ← Span.toNanos_max, Span.toNanos_injective.eq_iff]

theorem read_eq_ok_iff : read lookup = .ok settings ↔ Configures lookup settings := by
  have attempts (text : String) (attempts : UInt32) :
      Text.readUInt32 text = .ok attempts ↔ Attempts text attempts :=
    Text.readUInt32_eq_ok_iff
  constructor
  · intro succeeds
    obtain ⟨waitThreshold, isThreshold, afterThreshold⟩ := ok_of_bind succeeds
    obtain ⟨tableName, isTable, afterTable⟩ := ok_of_bind afterThreshold
    obtain ⟨maxAttempts, isAttempts, afterAttempts⟩ := ok_of_bind afterTable
    obtain ⟨baseDelay, isBase, afterBase⟩ := ok_of_bind afterAttempts
    obtain ⟨maxDelay, isLongest, afterLongest⟩ := ok_of_bind afterBase
    cases afterLongest
    obtain ⟨raised, -, longest⟩ := retry_eq_of_iff.mp (Eq.refl
      (RetryPolicy.of maxAttempts baseDelay maxDelay))
    exact ⟨readWaitThreshold_eq_ok_iff.mp isThreshold, require_eq_ok_iff.mp isTable,
      recorded_iff.mpr rfl, ⟨_, (numberOr_eq_ok_iff attempts).mp isAttempts, raised⟩,
      toNanos_defaultBaseDelay ▸ delay_eq_ok_iff.mp isBase,
      ⟨_, toNanos_defaultMaxDelay ▸ delay_eq_ok_iff.mp isLongest, longest⟩⟩
  · obtain ⟨waitThreshold, tableName, metricsNamespace, retry⟩ := settings
    rintro ⟨threshold, table, recorded, ⟨_, chosenAttempts, raised⟩, chosenBase,
      ⟨_, chosenLongest, longest⟩⟩
    rw [← toNanos_defaultBaseDelay] at chosenBase
    rw [← toNanos_defaultMaxDelay] at chosenLongest
    obtain ⟨maxDelay, rfl⟩ := exists_delay chosenLongest
    have isAttempts : numberOr lookup Text.readUInt32 maxAttemptsName
        RetryPolicy.defaultAttempts = .ok _ :=
      (numberOr_eq_ok_iff attempts).mpr chosenAttempts
    have isBase : numberOr lookup (fun text => (Text.readUInt64 text).map Span.ofMillis)
        retryBaseName RetryPolicy.defaultBaseDelay = .ok retry.baseDelay :=
      delay_eq_ok_iff.mpr chosenBase
    have isLongest : numberOr lookup (fun text => (Text.readUInt64 text).map Span.ofMillis)
        retryMaxName RetryPolicy.defaultMaxDelay = .ok maxDelay :=
      delay_eq_ok_iff.mpr chosenLongest
    obtain rfl := recorded_iff.mp recorded
    have isRetry := retry_eq_of_iff.mpr ⟨raised, rfl, longest⟩
    unfold read
    rw [readWaitThreshold_eq_ok_iff.mpr threshold, require_eq_ok_iff.mpr table, isAttempts,
      isBase, isLongest]
    exact congrArg (fun retry => Except.ok (Settings.mk waitThreshold tableName _ retry))
      isRetry.symm

/-- A setting that may be left out has a value unless its text is defective. -/
theorem exists_chosen {Value : Type} {name : String} {range : Text.IntegerRange}
    {Means : String → Value → Prop} (numeric : Numeric lookup name range)
    (exists_meaning : ∀ text value, Text.Denotes range text value → ∃ word, Means text word)
    (default : Value) : ∃ value, Chosen lookup name Means default value := by
  rcases setTo_or_unset lookup name with ⟨text, isSet⟩ | isUnset
  · obtain ⟨value, denotes⟩ := numeric text isSet
    obtain ⟨word, means⟩ := exists_meaning text value denotes
    exact ⟨word, .set isSet means⟩
  · exact ⟨default, .unset isUnset⟩

theorem Chosen.numeric {Value : Type} {name : String} {range : Text.IntegerRange}
    {Means : String → Value → Prop} {default value : Value}
    (chosen : Chosen lookup name Means default value)
    (denoted : ∀ text word, Means text word → ∃ value, Text.Denotes range text value) :
    Numeric lookup name range := by
  intro text isSet
  cases chosen with
  | set reset means =>
      obtain rfl := isSet.unique reset
      exact denoted text value means
  | unset isUnset => exact absurd isUnset isSet.not_unset

theorem Milliseconds.denoted (text : String) (nanos : Nat) (millis : Milliseconds text nanos) :
    ∃ value, Text.Denotes .unsigned64 text value := by
  obtain ⟨word, denotes, -⟩ := millis
  exact ⟨_, denotes⟩

theorem exists_milliseconds (text : String) (value : Int)
    (denotes : Text.Denotes .unsigned64 text value) : ∃ nanos, Milliseconds text nanos := by
  obtain ⟨millis, denotesMillis⟩ := denotes.exists_uint64
  exact ⟨_, millis, denotesMillis, rfl⟩

theorem exists_configures_iff : (∃ settings, Configures lookup settings) ↔ Acceptable lookup := by
  constructor
  · rintro ⟨settings, ⟨text, isThreshold, denotes⟩, table, -, ⟨_, isAttempts, -⟩, isBase,
      ⟨_, isLongest, -⟩⟩
    refine ⟨⟨text, isThreshold⟩, ?_, ⟨_, table⟩,
      isAttempts.numeric fun _ _ denotes => ⟨_, denotes⟩,
      isBase.numeric Milliseconds.denoted, isLongest.numeric Milliseconds.denoted⟩
    intro other isOther
    obtain rfl := isThreshold.unique isOther
    exact ⟨_, denotes⟩
  · rintro ⟨⟨text, isThreshold⟩, threshold, ⟨tableName, table⟩, attempts, base, longest⟩
    obtain ⟨value, denotes⟩ := threshold text isThreshold
    obtain ⟨waitThreshold, isWord⟩ := denotes.exists_uint64
    obtain ⟨maxAttempts, isAttempts⟩ :=
      exists_chosen attempts (fun _ _ denotes => denotes.exists_uint32) 5
    obtain ⟨_, isBase⟩ :=
      exists_chosen base exists_milliseconds RetryPolicy.defaultBaseDelay.toNanos
    obtain ⟨_, isLongest⟩ :=
      exists_chosen longest exists_milliseconds RetryPolicy.defaultMaxDelay.toNanos
    obtain ⟨baseDelay, rfl⟩ := exists_delay isBase
    obtain ⟨maxDelay, rfl⟩ := exists_delay isLongest
    rw [toNanos_defaultBaseDelay] at isBase
    rw [toNanos_defaultMaxDelay] at isLongest
    obtain ⟨raised, -, notBelow⟩ := retry_eq_of_iff.mp (Eq.refl
      (RetryPolicy.of maxAttempts baseDelay maxDelay))
    exact ⟨⟨waitThreshold, tableName, metricsNamespace? lookup,
        RetryPolicy.of maxAttempts baseDelay maxDelay⟩,
      ⟨text, isThreshold, isWord⟩, table, recorded_iff.mpr rfl, ⟨_, isAttempts, raised⟩, isBase,
      ⟨_, isLongest, notBelow⟩⟩

/-- The settings apart from the recording of delays. -/
def withoutNamespace (settings : Settings) : Settings :=
  { settings with metricsNamespace := none }

theorem setting?_congr {other : Lookup} {name : String} (same : other name = lookup name) :
    setting? other name = setting? lookup name := by
  unfold setting?
  rw [same]

/-- Nothing but the namespace depends on the settings about the recording of delays. -/
theorem read_congr {other : Lookup} (same : ∀ name ∈ checkedNames, other name = lookup name) :
    (read other).map withoutNamespace = (read lookup).map withoutNamespace := by
  have congruent : ∀ name ∈ checkedNames, setting? other name = setting? lookup name :=
    fun name member => setting?_congr (same name member)
  change withoutNamespace <$> read other = withoutNamespace <$> read lookup
  simp only [read, readWaitThreshold, require, numberOr, map_bind, map_pure,
    congruent waitThresholdName (by decide), congruent tableNameName (by decide),
    congruent maxAttemptsName (by decide), congruent retryBaseName (by decide),
    congruent retryMaxName (by decide)]
  rfl

/-- What can be relied on where settings have been accepted. -/
structure Workable (lookup : Lookup) (settings : Settings) : Prop where
  attempts : 1 ≤ settings.retry.maxAttempts.toNat
  delays : settings.retry.baseDelay.toNanos ≤ settings.retry.maxDelay.toNanos
  tableName : Text.isBlank settings.tableName = false
  recorded_iff : settings.metricsNamespace.isSome = true ↔ Enabled lookup

theorem Recorded.isSome_iff {recorded : Option String} (isRecorded : Recorded lookup recorded) :
    recorded.isSome = true ↔ Enabled lookup := by
  cases isRecorded with
  | enabled enabled => simp [enabled]
  | disabled disabled => simp [disabled]

theorem Configures.workable (configures : Configures lookup settings) :
    Workable lookup settings := by
  obtain ⟨-, table, recorded, ⟨attempts, -, raised⟩, -, ⟨nanos, -, longest⟩⟩ := configures
  refine ⟨?_, ?_, table.isBlank_eq, recorded.isSome_iff⟩
  · rw [raised]
    exact Nat.le_max_right _ _
  · rw [longest]
    exact Nat.le_max_left _ _

end All

/-- Settings are accepted if and only if both required ones are set and the numbers are in
their ranges, and they mean what their texts say.  Otherwise the first defect in a fixed order
is the error.  The settings about the recording of delays decide on the namespace and on
nothing else. -/
theorem settings_accepted_exactly (lookup : Lookup) :
    ((∃ settings, read lookup = .ok settings) ↔ Acceptable lookup) ∧
    (∀ settings, read lookup = .ok settings ↔ Configures lookup settings) ∧
    (∀ error, read lookup = .error error ↔
      FirstDefect (Defective lookup) checkedNames error) ∧
    (∀ other : Lookup, (∀ name ∈ checkedNames, other name = lookup name) →
      (read other).map withoutNamespace = (read lookup).map withoutNamespace) ∧
    ∀ settings, read lookup = .ok settings → Workable lookup settings := by
  refine ⟨?_, fun _ => read_eq_ok_iff, read_reports lookup, fun _ => read_congr, ?_⟩
  · rw [← exists_configures_iff]
    exact exists_congr fun _ => read_eq_ok_iff
  · intro settings succeeds
    exact (read_eq_ok_iff.mp succeeds).workable

/-- A maximum that is too small is raised to the base delay, and no attempts to one. -/
theorem settings_brought_into_order :
    let lookup : Lookup := fun name =>
      [("WAIT_THRESHOLD_SECONDS", " +60\n"), ("SCHEDULING_TABLE_NAME", "schedules"),
        ("SCHEDULING_MAX_ATTEMPTS", "0"), ("SCHEDULING_RETRY_BASE_MS", "300"),
        ("SCHEDULING_RETRY_MAX_MS", "10"), ("ENABLE_CUSTOM_METRICS", "Yes"),
        ("METRICS_NAMESPACE", " ")].lookup name
    let settings : Settings :=
      ⟨60, "schedules", some "RemediationScheduler", 1, .ofMillis 300, .ofMillis 300⟩
    read lookup = .ok settings ∧ settings.retry.maxDelay.toNanos = 300 * 1000000 ∧
      Acceptable lookup ∧ Workable lookup settings := by
  intro lookup settings
  have accepted : read lookup = .ok settings := by decide +kernel
  obtain ⟨acceptable, -, -, -, workable⟩ := settings_accepted_exactly lookup
  exact ⟨accepted, by decide +kernel, acceptable.mp ⟨settings, accepted⟩,
    workable settings accepted⟩

end Pacing.Settings
