import Pacing.Json.Basic
import Pacing.Remote.Service
import Pacing.Text.Base64

/-!
# Payloads

The members of requests to the remote services as JSON, what the services send
back, and the items of the table in both directions.
-/

namespace Pacing.Remote

namespace AttributeValue

mutual

def toJson : AttributeValue → Json
  | .text value => .object [("S", .string value)]
  | .number numeral => .object [("N", .string numeral)]
  | .bytes encoded => .object [("B", .string encoded)]
  | .flag value => .object [("BOOL", .bool value)]
  | .null => .object [("NULL", .bool true)]
  | .texts values => .object [("SS", .array (values.map Json.string))]
  | .numbers numerals => .object [("NS", .array (numerals.map Json.string))]
  | .byteTexts encoded => .object [("BS", .array (encoded.map Json.string))]
  | .list values => .object [("L", .array (listToJson values))]
  | .map members => .object [("M", .object (Json.Members.ofList (membersToJson members)))]
  | .other kind content => .object [(kind, content)]

def listToJson : List AttributeValue → List Json
  | [] => []
  | value :: rest => toJson value :: listToJson rest

def membersToJson : List (String × AttributeValue) → List (String × Json)
  | [] => []
  | member :: rest => memberToJson member :: membersToJson rest

def memberToJson : String × AttributeValue → String × Json
  | (name, value) => (name, toJson value)

end

/-- The texts of an array of strings. -/
def textsOfJson? (items : List Json) : Option (List String) :=
  items.mapM Json.text?

/-- A text that writes bytes. -/
def encodedBytes? (text : String) : Option String :=
  if Text.isBase64 text.toList then some text else none

/-- A member of a value that says nothing about it. -/
def annotationName : String := "__type"

/-- The kinds of values that are known. -/
def knownKinds : List String :=
  ["S", "N", "B", "BOOL", "NULL", "SS", "NS", "BS", "L", "M"]

/-- A value of a kind that is not known.  A known kind with a content that it
cannot have is no value. -/
def unknownOfJson? (kind : String) (content : Json) : Option AttributeValue :=
  if knownKinds.contains kind then none else some (.other kind content)

mutual

/-- The attribute value that JSON denotes: an object with one member, named
for the kind of the value, besides members that are null or an annotation. -/
def ofJson? : Json → Option AttributeValue
  | .object members =>
    match kindsOfJson? members with
    | some [value] => some value
    | _ => none
  | _ => none

/-- The values that the members of an object denote, each by its kind. -/
def kindsOfJson? : List (String × Json) → Option (List AttributeValue)
  | [] => some []
  | member :: rest => do
    return (← kindOfJson? member) ++ (← kindsOfJson? rest)

def kindOfJson? : String × Json → Option (List AttributeValue)
  | (_, .null) => some []
  | (kind, content) =>
    if kind = annotationName then some []
    else (contentOfJson? kind content).map fun value => [value]

/-- The value of a kind with the given content. -/
def contentOfJson? (kind : String) : Json → Option AttributeValue
  | .string written =>
    match kind with
    | "S" => some (.text written)
    | "N" => some (.number written)
    | "B" => (encodedBytes? written).map .bytes
    | kind => unknownOfJson? kind (.string written)
  | .bool value =>
    match kind with
    | "BOOL" => some (.flag value)
    | "NULL" => some .null
    | kind => unknownOfJson? kind (.bool value)
  | .array items =>
    match kind with
    | "SS" => (textsOfJson? items).map .texts
    | "NS" => (textsOfJson? items).map .numbers
    | "BS" => ((textsOfJson? items).bind fun texts => texts.mapM encodedBytes?).map .byteTexts
    | "L" => (listOfJson? items).map .list
    | kind => unknownOfJson? kind (.array items)
  | .object members =>
    match kind with
    | "M" => (membersOfJson? members).map .map
    | kind => unknownOfJson? kind (.object members)
  | content => unknownOfJson? kind content

/-- The values of an array, none of which may be missing. -/
def listOfJson? : List Json → Option (List AttributeValue)
  | [] => some []
  | value :: rest => do
    return (← ofJson? value) :: (← listOfJson? rest)

/-- The values of an object under their names, none of which may be missing. -/
def membersOfJson? : List (String × Json) → Option (List (String × AttributeValue))
  | [] => some []
  | member :: rest => do
    return (← memberOfJson? member) :: (← membersOfJson? rest)

def memberOfJson? : String × Json → Option (String × AttributeValue)
  | (name, value) => (ofJson? value).map fun value => (name, value)

end

end AttributeValue

namespace Item

def toJson (item : Item) : Json :=
  .object (Json.Members.ofList (AttributeValue.membersToJson item))

def ofJson? : Json → Option Item
  | .object members => AttributeValue.membersOfJson? members
  | _ => none

/-- The key of an item as a request names it. -/
def keyJson (key : String) : Json :=
  toJson [(partitionKey, .text key)]

end Item

namespace Condition

/-- The text of a condition. -/
def expression : Condition → String
  | .absent name => "attribute_not_exists(" ++ name.sign ++ ")"
  | .equals name value => name.sign ++ " = " ++ value.sign

def nameSigns : Condition → List NameSign
  | .absent name => [name]
  | .equals name _ => [name]

def valueSigns : Condition → List ValueSign
  | .absent _ => []
  | .equals _ value => [value]

end Condition

namespace Assignment

def expression (assignment : Assignment) : String :=
  assignment.name.sign ++ " = " ++ assignment.value.sign

/-- The text of an update that makes several assignments. -/
def updateExpression (assignments : List Assignment) : String :=
  "SET " ++ ", ".intercalate (assignments.map expression)

end Assignment

namespace ServiceRequest

def nameSignsJson (signs : List NameSign) : Json :=
  .object (Json.Members.ofList
    (signs.map fun entry => (entry.sign, Json.string entry.name)))

def valueSignsJson (signs : List ValueSign) : Json :=
  .object (Json.Members.ofList
    (signs.map fun entry => (entry.sign, entry.value.toJson)))

/-- The members of a request. -/
def members : ServiceRequest → List (String × Json)
  | .getItem table key =>
    [("TableName", .string table), ("Key", Item.keyJson key),
      ("ConsistentRead", .bool true)]
  | .putItem table item condition =>
    [("TableName", .string table), ("Item", item.toJson),
      ("ConditionExpression", .string condition.expression),
      ("ExpressionAttributeNames", nameSignsJson condition.nameSigns)]
  | .updateItem table key assignments condition =>
    [("TableName", .string table), ("Key", Item.keyJson key),
      ("UpdateExpression", .string (Assignment.updateExpression assignments)),
      ("ConditionExpression", .string condition.expression),
      ("ExpressionAttributeNames",
        nameSignsJson (assignments.map Assignment.name ++ condition.nameSigns)),
      ("ExpressionAttributeValues",
        valueSignsJson (assignments.map Assignment.value ++ condition.valueSigns))]
  | .sendTaskSuccess token output =>
    [("taskToken", .string token), ("output", .string output)]
  | .sendTaskFailure token error cause =>
    [("taskToken", .string token), ("error", .string error), ("cause", .string cause)]
  | .putMetricData metricsNamespace name seconds =>
    [("Namespace", .string metricsNamespace),
      ("MetricData", .array [.object (Json.Members.ofList
        [("MetricName", .string name), ("Unit", .string "Seconds"),
          ("Value", .string (Text.numeral seconds))])])]

/-- The payload of a request. -/
def payload (request : ServiceRequest) : Json :=
  .object (Json.Members.ofList request.members)

end ServiceRequest

/-! ## Responses -/

/-- What a service sends back: a result, of which only an item matters, or the
name of an exception under a status; or the connection is lost before. -/
inductive Response where
  | result (item : Option Json)
  | exception (status : Nat) (name : String)
  | lost

namespace Response

/-- Whether a status stands for a success. -/
def isSuccess (status : Nat) : Bool :=
  200 ≤ status && status < 300

/-- The name of an exception as it is compared: what a colon begins does not
belong to it. -/
def exceptionName (name : String) : String :=
  String.ofList (name.toList.takeWhile fun character => character != ':')

/-- The item of a result, or the failure.  The status alone decides which of the
two it is; without a failure, an exception is a result without an item. -/
def outcome : Response → Except ServiceFailure (Option Json)
  | result item => .ok item
  | exception status name =>
    if isSuccess status then .ok none else .error ⟨some (exceptionName name), ""⟩
  | lost => .error ⟨none, ""⟩

/-- The item that the reply to a read holds, if there is one. -/
def readItem : Option Json → Except ServiceFailure (Option Item)
  | none => .ok none
  | some .null => .ok none
  | some content =>
    match Item.ofJson? content with
    | some item => .ok (some item)
    | none => .error ⟨none, ""⟩

end Response

/-- The reply to a request that a response is read as. -/
def ServiceRequest.readResponse (request : ServiceRequest) (response : Response) :
    request.Reply :=
  match request with
  | .getItem .. => response.outcome.bind Response.readItem
  | .putItem .. => response.outcome.map fun _ => ()
  | .updateItem .. => response.outcome.map fun _ => ()
  | .sendTaskSuccess .. => response.outcome.map fun _ => ()
  | .sendTaskFailure .. => response.outcome.map fun _ => ()
  | .putMetricData .. => response.outcome.map fun _ => ()

end Pacing.Remote
