import Pacing.Proofs.Attempt
import Pacing.Proofs.Defects
import Pacing.Proofs.Refinement
import Pacing.Proofs.Retrying

/-!
# Items that are read

An item holds a record if three of its attributes have the right kinds and both numbers are
times, however they are written.  Nothing else of an item matters.  An item that holds no
record is reported by the first of the three attributes that is at fault, and a commit that
reads such an item ends there: it sends nothing but the read.
-/

namespace Pacing.Remote

namespace Item

/-- The attributes of a record, in the order in which they are looked at. -/
def attributeNames : List String := [partitionKey, lastExecutedName, expiryName]

/-- An item holds a time under a name: a number whose text denotes the time. -/
structure HoldsTime (item : Item) (name : String) (time : Int64) : Prop where
  exists_numeral : ∃ numeral, item.get? name = some (.number numeral) ∧
    Text.Denotes .signed64 numeral time.toInt

structure Holds (item : Item) (record : ScheduleRecord) : Prop where
  scope : item.get? partitionKey = some (.text record.scope.text)
  lastExecutedAt : item.HoldsTime lastExecutedName record.lastExecutedAt
  expiresAt : item.HoldsTime expiryName record.expiresAt

/-- An item that has a text for its scope and numerals of 64-bit integers for its times. -/
structure WellFormed (item : Item) : Prop where
  scope : ∃ text, item.get? partitionKey = some (.text text)
  times : ∀ name ∈ [lastExecutedName, expiryName], ∃ numeral value,
    item.get? name = some (.number numeral) ∧ Text.Denotes .signed64 numeral value

/-- What is wrong with an attribute of an item. -/
inductive Defective (item : Item) : String → StoreError → Prop where
  | noText (missing : ∀ text, item.get? partitionKey ≠ some (.text text)) :
      Defective item partitionKey
        (.invalidRecord ("missing " ++ partitionKey ++ " attribute"))
  | noNumber {name : String} (isTime : name ∈ [lastExecutedName, expiryName])
      (missing : ∀ numeral, item.get? name ≠ some (.number numeral)) :
      Defective item name (.invalidRecord ("missing numeric " ++ name ++ " attribute"))
  | noInteger {name numeral : String} {cause : Text.NumeralError}
      (isTime : name ∈ [lastExecutedName, expiryName])
      (isNumber : item.get? name = some (.number numeral))
      (refused : Text.Refused .signed64 numeral cause) :
      Defective item name (.invalidRecord
        (name ++ "='" ++ numeral ++ "' is not an integer: " ++ cause.message))

section Attributes

variable {item : Item} {name text numeral : String} {error : StoreError}

/-- The attribute under a name, where only one kind of attributes will do. -/
theorem bind_eq_some_iff {Content : Type} {content? : AttributeValue → Option Content}
    {ofContent : Content → AttributeValue}
    (isKind : ∀ value content, content? value = some content ↔ value = ofContent content)
    (content : Content) :
    (item.get? name).bind content? = some content ↔
      item.get? name = some (ofContent content) := by
  rw [Option.bind_eq_some_iff]
  constructor
  · rintro ⟨value, found, isContent⟩
    rw [found, (isKind value content).mp isContent]
  · intro found
    exact ⟨_, found, (isKind _ content).mpr rfl⟩

theorem text?_eq_some_iff (value : AttributeValue) (text : String) :
    value.text? = some text ↔ value = .text text := by
  cases value <;> simp [AttributeValue.text?]

theorem numeral?_eq_some_iff (value : AttributeValue) (numeral : String) :
    value.numeral? = some numeral ↔ value = .number numeral := by
  cases value <;> simp [AttributeValue.numeral?]

theorem scope_of_text (found : item.get? partitionKey = some (.text text)) :
    item.scope = .ok ⟨text⟩ := by
  unfold scope
  rw [(bind_eq_some_iff text?_eq_some_iff text).mpr found]

theorem scope_of_noText (missing : ∀ text, item.get? partitionKey ≠ some (.text text)) :
    item.scope = .error (.invalidRecord ("missing " ++ partitionKey ++ " attribute")) := by
  have noText : (item.get? partitionKey).bind AttributeValue.text? = none := by
    rw [Option.eq_none_iff_forall_ne_some]
    exact fun text isText => missing text ((bind_eq_some_iff text?_eq_some_iff text).mp isText)
  unfold scope
  rw [noText]

theorem time_of_number (found : item.get? name = some (.number numeral)) :
    item.time name = (Text.readInt64 numeral).mapError fun error =>
      .invalidRecord (name ++ "='" ++ numeral ++ "' is not an integer: " ++ error.message) := by
  unfold time
  rw [(bind_eq_some_iff numeral?_eq_some_iff numeral).mpr found]

theorem time_of_noNumber (missing : ∀ numeral, item.get? name ≠ some (.number numeral)) :
    item.time name = .error (.invalidRecord ("missing numeric " ++ name ++ " attribute")) := by
  have noNumber : (item.get? name).bind AttributeValue.numeral? = none := by
    rw [Option.eq_none_iff_forall_ne_some]
    exact fun numeral isNumber =>
      missing numeral ((bind_eq_some_iff numeral?_eq_some_iff numeral).mp isNumber)
  unfold time
  rw [noNumber]

theorem scope_eq_ok_iff {key : ScopeKey} :
    item.scope = .ok key ↔ item.get? partitionKey = some (.text key.text) := by
  obtain ⟨own⟩ := key
  by_cases present : ∃ text, item.get? partitionKey = some (.text text)
  · obtain ⟨text, found⟩ := present
    simp [scope_of_text found, found]
  · have missing := not_exists.mp present
    simp [scope_of_noText missing, missing]

theorem scope_eq_error_iff :
    item.scope = .error error ↔ item.Defective partitionKey error := by
  constructor
  · intro failed
    by_cases present : ∃ text, item.get? partitionKey = some (.text text)
    · obtain ⟨text, found⟩ := present
      rw [scope_of_text found] at failed
      cases failed
    · have missing := not_exists.mp present
      rw [scope_of_noText missing] at failed
      cases failed
      exact .noText missing
  · intro defective
    cases defective with
    | noText missing => exact scope_of_noText missing
    | noNumber isTime | noInteger isTime => exact absurd isTime (by decide)

theorem time_eq_ok_iff {time : Int64} : item.time name = .ok time ↔ item.HoldsTime name time := by
  constructor
  · intro succeeds
    by_cases present : ∃ numeral, item.get? name = some (.number numeral)
    · obtain ⟨numeral, found⟩ := present
      rw [time_of_number found] at succeeds
      cases read : Text.readInt64 numeral with
      | error cause =>
          rw [read] at succeeds
          cases succeeds
      | ok other =>
          rw [read] at succeeds
          cases succeeds
          exact ⟨numeral, found, Text.readInt64_eq_ok_iff.mp read⟩
    · rw [time_of_noNumber (not_exists.mp present)] at succeeds
      cases succeeds
  · rintro ⟨numeral, found, denotes⟩
    rw [time_of_number found, Text.readInt64_eq_ok_iff.mpr denotes]
    rfl

theorem time_eq_error_iff (isTime : name ∈ [lastExecutedName, expiryName]) :
    item.time name = .error error ↔ item.Defective name error := by
  constructor
  · intro failed
    by_cases present : ∃ numeral, item.get? name = some (.number numeral)
    · obtain ⟨numeral, found⟩ := present
      rw [time_of_number found] at failed
      cases read : Text.readInt64 numeral with
      | error cause =>
          rw [read] at failed
          cases failed
          exact .noInteger isTime found (Text.readInt64_eq_error_iff.mp read)
      | ok other =>
          rw [read] at failed
          cases failed
    · have missing := not_exists.mp present
      rw [time_of_noNumber missing] at failed
      cases failed
      exact .noNumber isTime missing
  · intro defective
    cases defective with
    | noText missing => exact absurd isTime (by decide)
    | noNumber _ missing => exact time_of_noNumber missing
    | noInteger _ found refused =>
        rw [time_of_number found, Text.readInt64_eq_error_iff.mpr refused]
        rfl

end Attributes

/-! ## Records -/

section Records

variable {item : Item} {record : ScheduleRecord}

theorem toRecord_eq_ok_iff : item.toRecord = .ok record ↔ item.Holds record := by
  constructor
  · intro succeeds
    obtain ⟨scope, isScope, afterScope⟩ := ok_of_bind succeeds
    obtain ⟨lastExecutedAt, isLast, afterLast⟩ := ok_of_bind afterScope
    obtain ⟨expiresAt, isExpiry, afterExpiry⟩ := ok_of_bind afterLast
    cases afterExpiry
    exact ⟨scope_eq_ok_iff.mp isScope, time_eq_ok_iff.mp isLast, time_eq_ok_iff.mp isExpiry⟩
  · intro holds
    unfold toRecord
    rw [scope_eq_ok_iff.mpr holds.scope, time_eq_ok_iff.mpr holds.lastExecutedAt,
      time_eq_ok_iff.mpr holds.expiresAt]
    rfl

theorem toRecord_reports (item : Item) :
    Reports item.Defective attributeNames item.toRecord := by
  apply Reports.bind fun _ => scope_eq_error_iff
  intro scope _
  apply Reports.bind fun _ => time_eq_error_iff (by decide)
  intro lastExecutedAt _
  apply Reports.bind fun _ => time_eq_error_iff (by decide)
  intro expiresAt _
  exact Reports.of_ok _

theorem exists_holdsTime {name numeral : String} {value : Int}
    (isNumber : item.get? name = some (.number numeral))
    (denotes : Text.Denotes .signed64 numeral value) : ∃ time, item.HoldsTime name time := by
  obtain ⟨time, denotesTime⟩ := denotes.exists_int64
  exact ⟨time, numeral, isNumber, denotesTime⟩

theorem exists_holds_iff : (∃ record, item.Holds record) ↔ item.WellFormed := by
  constructor
  · rintro ⟨record, scope, ⟨numeral, isNumber, denotes⟩, ⟨other, isOther, otherDenotes⟩⟩
    refine ⟨⟨_, scope⟩, ?_⟩
    rw [List.forall_mem_cons, List.forall_mem_singleton]
    exact ⟨⟨_, _, isNumber, denotes⟩, ⟨_, _, isOther, otherDenotes⟩⟩
  · rintro ⟨⟨text, scope⟩, times⟩
    rw [List.forall_mem_cons, List.forall_mem_singleton] at times
    obtain ⟨⟨_, _, isNumber, denotes⟩, ⟨_, _, isOther, otherDenotes⟩⟩ := times
    obtain ⟨lastExecutedAt, holdsLast⟩ := exists_holdsTime isNumber denotes
    obtain ⟨expiresAt, holdsExpiry⟩ := exists_holdsTime isOther otherDenotes
    exact ⟨⟨⟨text⟩, lastExecutedAt, expiresAt⟩, scope, holdsLast, holdsExpiry⟩

theorem Defective.invalidRecord {name : String} {error : StoreError}
    (defective : item.Defective name error) : ∃ reason, error = .invalidRecord reason := by
  cases defective <;> exact ⟨_, rfl⟩

theorem invalidRecord_of_toRecord {error : StoreError} (failed : item.toRecord = .error error) :
    ∃ reason, error = .invalidRecord reason := by
  obtain ⟨name, -, defective⟩ := ((toRecord_reports item error).mp failed).exists_part
  exact defective.invalidRecord

/-- Only the attributes of a record are looked at. -/
theorem toRecord_congr {other : Item}
    (same : ∀ name ∈ attributeNames, other.get? name = item.get? name) :
    other.toRecord = item.toRecord := by
  unfold toRecord scope time
  rw [same partitionKey (by decide), same lastExecutedName (by decide),
    same expiryName (by decide)]

end Records

end Item

/-! ## Commits that read an item -/

section Commits

open Handling (commitFrom)

variable {State : Type} {respond : (query : Query) → State → query.Reply × State}
  {settings : Settings} {key : ScopeKey} {item : Item} {reason : String}

theorem run_read (named : Text.isBlank settings.tableName = false) (state : State) :
    let query := Query.send (Table.getRequest settings.tableName key)
    let replied := respond query state
    (Table.read settings.tableName key).run respond state =
      ⟨Table.readReply replied.1, replied.2, [.exchange query replied.1]⟩ := by
  simp only [Table.read, Table.ask, named, Bool.false_eq_true]
  rfl

/-- A commit that reads an item without a record ends with this attempt, whichever one of its
attempts it is.  It asks for nothing but the time and the item. -/
theorem run_commitFrom_corrupt (named : Text.isBlank settings.tableName = false)
    (terms : Terms) (remaining number : Nat) (state : State)
    (isItem : (respond (.send (Table.getRequest settings.tableName key))
      (respond .now state).2).1 = .ok (some item))
    (corrupt : item.toRecord = .error (.invalidRecord reason)) :
    let query := Query.send (Table.getRequest settings.tableName key)
    let clock := respond .now state
    let replied := respond query clock.2
    (serve settings (commitFrom terms key (remaining + 1) number)).run respond state =
      ⟨.error (.corruptRecord reason), replied.2,
        [.exchange .now clock.1, .exchange query replied.1]⟩ := by
  intro query clock replied
  have isError : Table.readReply replied.1 = .error (.invalidRecord reason) := by
    rw [isItem]
    unfold Table.readReply
    simp only [corrupt]
    rfl
  have asked : (answer settings .now).run respond state =
      ⟨clock.1, clock.2, [.exchange .now clock.1]⟩ := rfl
  have read : (answer settings (.read key)).run respond clock.2 = _ := run_read named clock.2
  simp only [serve, Retrying.commitFrom_succ, Handling.attempt_eq, Dialogue.bind_ask,
    Dialogue.interpret, Dialogue.run_bind, asked, read]
  rw [isError]
  rfl

end Commits

/-- An item is read as the record that it holds, however its numbers are written and whatever
else it has, and this record is written and read again without a change.  If an item holds
none, what is reported is its first defect, and an attempt to commit that reads it is the last
one and sends nothing else. -/
theorem item_read_exactly (item : Item) :
    (∀ record, (Item.ofRecord record).toRecord = .ok record) ∧
    ((∃ record, item.toRecord = .ok record) ↔ item.WellFormed) ∧
    (∀ record, item.toRecord = .ok record ↔ item.Holds record) ∧
    (∀ other : Item, (∀ name ∈ Item.attributeNames, other.get? name = item.get? name) →
      other.toRecord = item.toRecord) ∧
    (∀ record, item.toRecord = .ok record →
      (Item.ofRecord record).toRecord = item.toRecord) ∧
    (∀ error, item.toRecord = .error error ↔
      FirstDefect item.Defective Item.attributeNames error) ∧
    ∀ error, item.toRecord = .error error → ∃ reason, error = .invalidRecord reason ∧
      ∀ (State : Type) (respond : (query : Query) → State → query.Reply × State)
        (settings : Settings) (terms : Terms) (key : ScopeKey) (remaining number : Nat)
        (state : State),
        let query := Query.send (Table.getRequest settings.tableName key)
        let clock := respond .now state
        let replied := respond query clock.2
        Text.isBlank settings.tableName = false → replied.1 = .ok (some item) →
        (serve settings (Handling.commitFrom terms key (remaining + 1) number)).run respond
            state =
          ⟨.error (.corruptRecord reason), replied.2,
            [.exchange .now clock.1, .exchange query replied.1]⟩ := by
  refine ⟨Item.toRecord_ofRecord, ?succeeds, fun _ => Item.toRecord_eq_ok_iff,
    fun _ => Item.toRecord_congr, ?again, Item.toRecord_reports item, ?ends⟩
  case succeeds =>
    rw [← Item.exists_holds_iff]
    exact exists_congr fun _ => Item.toRecord_eq_ok_iff
  case again =>
    intro record succeeds
    rw [Item.toRecord_ofRecord, succeeds]
  case ends =>
    intro error failed
    obtain ⟨reason, rfl⟩ := Item.invalidRecord_of_toRecord failed
    refine ⟨reason, rfl, ?_⟩
    intro State respond settings terms key remaining number state query clock replied named isItem
    exact run_commitFrom_corrupt named terms remaining number state isItem failed

/-- A commit ends with an item that expires at no number. -/
theorem item_read_of_stray_expiry :
    let item : Item :=
      [("TTL", .number "12x"), ("LastExecutedTimestamp", .number "+007"),
        ("AccountID-Region", .text "111111111111-us-east-1")]
    let reason := "TTL='12x' is not an integer: invalid digit found in string"
    let settings : Settings := ⟨60, "schedules", none, .standard⟩
    let key : ScopeKey := ⟨"111111111111-us-east-1"⟩
    let table := ItemTable.empty.put key.text item
    let run := (serve settings (Handling.commitFrom (terms settings) key 5 1)).run
      Refinement.tableService table
    item.toRecord = .error (.invalidRecord reason) ∧
      Text.isBlank settings.tableName = false ∧
      run.result = .error (.corruptRecord reason) ∧ run.state = table := by
  intro item reason settings key table run
  have failed : item.toRecord = .error (.invalidRecord reason) := by rfl
  have named : Text.isBlank settings.tableName = false := by decide +kernel
  obtain ⟨-, -, -, -, -, -, ends⟩ := item_read_exactly item
  obtain ⟨_, ⟨rfl⟩, isRun⟩ := ends _ failed
  have isItem : table key.text = some item := if_pos rfl
  have ended : run = _ := isRun ItemTable Refinement.tableService settings (terms settings) key
    4 1 table named (congrArg Except.ok isItem)
  rw [ended]
  exact ⟨failed, named, rfl, rfl⟩

end Pacing.Remote
