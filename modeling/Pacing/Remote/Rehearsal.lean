import Pacing.Remote.Adapter
import Pacing.Remote.Payload

/-!
# Rehearsals of the remote services

Two stand-ins for the remote services.  The schedule table as its service keeps
it has at most one item under each key, and a request is executed as a whole:
the condition of a write is evaluated on the item that is there, and the write
happens only if the condition holds.  Other remote services respond from a
list, once to each request; when the list is used up, every further request
succeeds, and time stands still.
-/

namespace Pacing.Remote

namespace AttributeValue

/-- Whether a condition takes two values as equal: numbers if they denote the
same integer, and texts as they are written. -/
def agrees : AttributeValue → AttributeValue → Bool
  | .number left, .number right =>
    match Text.readInt64 left, Text.readInt64 right with
    | .ok time, .ok expected => time = expected
    | _, _ => false
  | .text left, .text right => left = right
  | _, _ => false

end AttributeValue

namespace Item

/-- Sets one attribute and keeps the others. -/
def set (name : String) (value : AttributeValue) : Item → Item
  | [] => [(name, value)]
  | entry :: rest =>
    if entry.1 = name then (name, value) :: rest else entry :: set name value rest

/-- The item after assignments, made one after the other. -/
def assign (item : Item) (assignments : List Assignment) : Item :=
  assignments.foldl (fun item assignment =>
    item.set assignment.name.name assignment.value.value) item

/-- The key under which an item is filed. -/
def key? (item : Item) : Option String :=
  (item.get? partitionKey).bind AttributeValue.text?

end Item

namespace Condition

/-- Whether a condition holds of the item that is there, if one is.  An item
that is not there has no attributes. -/
def holds (current : Option Item) : Condition → Bool
  | .absent name => ((current.getD []).get? name.name).isNone
  | .equals name value =>
    match (current.getD []).get? name.name with
    | some found => found.agrees value.value
    | none => false

end Condition

/-- The items of a table, each under its key. -/
abbrev ItemTable := String → Option Item

namespace ItemTable

def empty : ItemTable := fun _ => none

def put (table : ItemTable) (key : String) (item : Item) : ItemTable :=
  fun other => if other = key then some item else table other

/-- A write that happens only under a condition on the item that is there. -/
def writeIf (table : ItemTable) (condition : Condition) (key : String) (item : Item) :
    Except ServiceFailure Unit × ItemTable :=
  if condition.holds (table key) then (.ok (), table.put key item)
  else (.error ⟨some Table.conditionFailedName, ""⟩, table)

/-- The exception with which the service refuses an item without a key. -/
def invalidRequestName : String := "ValidationException"

/-- Executes a request.  An update of an item that is not there creates it. -/
def execute (table : ItemTable) (request : ServiceRequest) : request.Reply × ItemTable :=
  match request with
  | .getItem _ key => (.ok (table key), table)
  | .putItem _ item condition =>
    match item.key? with
    | some key => table.writeIf condition key item
    | none => (.error ⟨some invalidRequestName, ""⟩, table)
  | .updateItem _ key assignments condition =>
    let current := (table key).getD [(Item.partitionKey, .text key)]
    table.writeIf condition key (current.assign assignments)
  | .sendTaskSuccess .. => (.ok (), table)
  | .sendTaskFailure .. => (.ok (), table)
  | .putMetricData .. => (.ok (), table)

@[simp] theorem put_apply (table : ItemTable) (key : String) (item : Item) (other : String) :
    table.put key item other = if other = key then some item else table other := rfl

end ItemTable

/-! ## Responses from a list -/

structure Rehearsal where
  now : Int64
  responses : List Response

namespace Rehearsal

def respond (query : Query) (rehearsal : Rehearsal) : query.Reply × Rehearsal :=
  match query with
  | .now => (rehearsal.now, rehearsal)
  | .draw bound => (⟨bound / 2, Nat.lt_succ_of_le (Nat.div_le_self bound 2)⟩, rehearsal)
  | .sleep _ => ((), rehearsal)
  | .send request =>
    (request.readResponse (rehearsal.responses.headD (.result none)),
      { rehearsal with responses := rehearsal.responses.tail })

end Rehearsal

end Pacing.Remote
