import Pacing.Json.Basic
import Pacing.Schedule.Record
import Pacing.Text.Numeral

/-!
# Table items

The items of the schedule table and the records that they hold.  An item has a
text under the partition key and two numbers, which a table keeps as numerals.
Other attributes of an item do not matter to its record.
-/

namespace Pacing.Remote

/-- The value of an attribute.  Numbers and bytes are kept as they were written,
and so is a value of a kind that is not known. -/
inductive AttributeValue where
  | text (value : String)
  | number (numeral : String)
  | bytes (encoded : String)
  | flag (value : Bool)
  | null
  | texts (values : List String)
  | numbers (numerals : List String)
  | byteTexts (encoded : List String)
  | list (values : List AttributeValue)
  | map (members : List (String × AttributeValue))
  | other (kind : String) (content : Json)
  deriving Repr

namespace AttributeValue

def text? : AttributeValue → Option String
  | text value => some value
  | _ => none

def numeral? : AttributeValue → Option String
  | number numeral => some numeral
  | _ => none

/-- The attribute of a time. -/
def ofTime (time : Int64) : AttributeValue :=
  .number (Text.numeral time.toInt)

end AttributeValue

/-- The attributes of an item, each under its name. -/
abbrev Item := List (String × AttributeValue)

namespace Item

def partitionKey : String := "AccountID-Region"

def lastExecutedName : String := "LastExecutedTimestamp"

def expiryName : String := "TTL"

def get? (item : Item) (name : String) : Option AttributeValue :=
  (item.find? fun entry => entry.1 = name).map Prod.snd

def ofRecord (record : ScheduleRecord) : Item :=
  [(partitionKey, .text record.scope.text),
    (lastExecutedName, .ofTime record.lastExecutedAt),
    (expiryName, .ofTime record.expiresAt)]

/-- The scope of an item. -/
def scope (item : Item) : Except StoreError ScopeKey :=
  match (item.get? partitionKey).bind AttributeValue.text? with
  | some text => .ok ⟨text⟩
  | none => .error (.invalidRecord ("missing " ++ partitionKey ++ " attribute"))

/-- The time under a name of an item. -/
def time (item : Item) (name : String) : Except StoreError Int64 :=
  match (item.get? name).bind AttributeValue.numeral? with
  | none => .error (.invalidRecord ("missing numeric " ++ name ++ " attribute"))
  | some numeral =>
    (Text.readInt64 numeral).mapError fun error =>
      .invalidRecord (name ++ "='" ++ numeral ++ "' is not an integer: " ++ error.message)

/-- The record that an item holds, or its first defective attribute. -/
def toRecord (item : Item) : Except StoreError ScheduleRecord := do
  let scope ← item.scope
  let lastExecutedAt ← item.time lastExecutedName
  let expiresAt ← item.time expiryName
  return { scope, lastExecutedAt, expiresAt }

end Item

end Pacing.Remote
