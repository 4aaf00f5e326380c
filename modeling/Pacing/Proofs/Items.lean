import Pacing.Proofs.Numerals
import Pacing.Remote.Rehearsal

/-!
# Items of records

The item that is written for a record holds this record, and an update of the two
times of the item gives the item of the updated record.  The key stays, since an
update does not set it.
-/

namespace Pacing.Remote

/-- A condition compares the times that two numerals denote. -/
theorem AttributeValue.agrees_ofTime (left right : Int64) :
    (AttributeValue.ofTime left).agrees (.ofTime right) = true ↔ left = right := by
  simp [AttributeValue.ofTime, AttributeValue.agrees, Text.readInt64_numeral]

namespace Item

variable (record : ScheduleRecord)

@[simp] theorem get?_nil (name : String) : get? [] name = none := rfl

@[simp] theorem get?_cons (entry : String × AttributeValue) (rest : Item) (name : String) :
    get? (entry :: rest) name = if entry.1 = name then some entry.2 else get? rest name := by
  by_cases same : entry.1 = name <;> simp [get?, same]

theorem get?_partitionKey_ofRecord :
    (ofRecord record).get? partitionKey = some (.text record.scope.text) := by
  simp [ofRecord]

theorem get?_lastExecutedName_ofRecord :
    (ofRecord record).get? lastExecutedName = some (.ofTime record.lastExecutedAt) := by
  simp [ofRecord, partitionKey, lastExecutedName]

theorem get?_expiryName_ofRecord :
    (ofRecord record).get? expiryName = some (.ofTime record.expiresAt) := by
  simp [ofRecord, partitionKey, lastExecutedName, expiryName]

theorem time_of_get? {item : Item} {name : String} {time : Int64}
    (written : item.get? name = some (.ofTime time)) : item.time name = .ok time := by
  unfold Item.time
  rw [written]
  simp [AttributeValue.ofTime, AttributeValue.numeral?, Text.readInt64_numeral,
    Except.mapError]

theorem key?_ofRecord : (ofRecord record).key? = some record.scope.text := by
  rw [key?, get?_partitionKey_ofRecord]
  rfl

/-- What is written for a record is read as this record. -/
theorem toRecord_ofRecord : (ofRecord record).toRecord = .ok record := by
  have scope : (ofRecord record).scope = .ok record.scope := by
    rw [Item.scope, get?_partitionKey_ofRecord]
    rfl
  have lastExecutedAt : (ofRecord record).time lastExecutedName =
      .ok record.lastExecutedAt :=
    time_of_get? (get?_lastExecutedName_ofRecord record)
  have expiresAt : (ofRecord record).time expiryName = .ok record.expiresAt :=
    time_of_get? (get?_expiryName_ofRecord record)
  rw [toRecord, scope, lastExecutedAt, expiresAt]
  rfl

theorem set_cons (name : String) (value : AttributeValue) (entry : String × AttributeValue)
    (rest : Item) :
    set name value (entry :: rest) =
      if entry.1 = name then (name, value) :: rest else entry :: set name value rest := rfl

theorem get?_set (item : Item) (name : String) (value : AttributeValue) (other : String) :
    (item.set name value).get? other = if name = other then some value else item.get? other := by
  induction item with
  | nil => simp [set]
  | cons entry rest induction =>
      rw [set_cons]
      by_cases same : entry.1 = name
      · rw [if_pos same]
        by_cases found : name = other <;> simp [same, found]
      · rw [if_neg same, get?_cons, get?_cons, induction]
        by_cases found : name = other
        · simp [found, show entry.1 ≠ other from fun here => same (here.trans found.symm)]
        · simp [found]

/-- Setting both times of an item of the same scope leads to the item of the record. -/
theorem set_times_ofRecord {current : ScheduleRecord} (own : current.scope = record.scope) :
    ((ofRecord current).set lastExecutedName (.ofTime record.lastExecutedAt)).set expiryName
        (.ofTime record.expiresAt) =
      ofRecord record := by
  simp [ofRecord, own, set_cons, partitionKey, lastExecutedName, expiryName]

end Item

end Pacing.Remote
