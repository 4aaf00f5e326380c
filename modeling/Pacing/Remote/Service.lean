import Pacing.Remote.Item

/-!
# Requests to remote services

The requests to the three remote services: the schedule table, the workflow
service and the metrics service.  A service replies with a result or fails,
and it may fail by naming an exception of its own.
-/

namespace Pacing.Remote

/-- What stands for the name of an attribute in the expressions of a request. -/
structure NameSign where
  sign : String
  name : String
  deriving DecidableEq, Repr

/-- What stands for a value in the expressions of a request. -/
structure ValueSign where
  sign : String
  value : AttributeValue

/-- A condition on the item that is there before a write. -/
inductive Condition where
  | absent (name : NameSign)
  | equals (name : NameSign) (value : ValueSign)

/-- An attribute that an update sets. -/
structure Assignment where
  name : NameSign
  value : ValueSign

inductive ServiceRequest where
  /-- Reads the item under a key, with every earlier write visible. -/
  | getItem (table key : String)
  /-- Writes a whole item if a condition holds. -/
  | putItem (table : String) (item : Item) (condition : Condition)
  /-- Sets attributes of the item under a key if a condition holds. -/
  | updateItem (table key : String) (assignments : List Assignment) (condition : Condition)
  | sendTaskSuccess (token output : String)
  | sendTaskFailure (token error cause : String)
  /-- Records one measurement in seconds. -/
  | putMetricData (metricsNamespace name : String) (seconds : Int)

/-- Why a request failed: an exception that the service names, if it named
one, and what is known besides. -/
structure ServiceFailure where
  exception : Option String
  detail : String
  deriving DecidableEq, Repr

namespace ServiceFailure

/-- Whether the service named one of the given exceptions. -/
def isOneOf (failure : ServiceFailure) (names : List String) : Bool :=
  match failure.exception with
  | some exception => names.contains exception
  | none => false

end ServiceFailure

namespace ServiceRequest

/-- What a service can reply to a request. -/
@[reducible] def Reply : ServiceRequest → Type
  | .getItem .. => Except ServiceFailure (Option Item)
  | _ => Except ServiceFailure Unit

def operation : ServiceRequest → String
  | .getItem .. => "GetItem"
  | .putItem .. => "PutItem"
  | .updateItem .. => "UpdateItem"
  | .sendTaskSuccess .. => "SendTaskSuccess"
  | .sendTaskFailure .. => "SendTaskFailure"
  | .putMetricData .. => "PutMetricData"

end ServiceRequest

end Pacing.Remote
