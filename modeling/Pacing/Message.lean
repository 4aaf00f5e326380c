import Pacing.Callback
import Pacing.Json.Basic
import Pacing.Failure
import Pacing.Text.Blank

/-!
# Messages

The fields of a queued message.  A message may carry a field under its
present name and under an older one; the first value that is not blank wins.
The continuation token is recovered on its own, so that it survives a message
whose other fields are unusable.
-/

namespace Pacing

structure Message where
  region : Option String
  account : Option String
  details : Option Json

namespace Message

def regionNames : List String := ["ResourceRegion"]

def accountNames : List String := ["AccountId", "AccountID"]

def tokenNames : List String := ["ContinuationToken", "TaskToken"]

def detailsName : String := "RemediationDetails"

/-- The first text under one of the names that is not blank, trimmed.  A null
counts as absent, and a value of another kind is an error. -/
def firstText (members : Json.Members) :
    List String → Except SchedulerError (Option String)
  | [] => .ok none
  | name :: others =>
    match members.get? name with
    | none => firstText members others
    | some .null => firstText members others
    | some (.string text) =>
      if Text.isBlank text then firstText members others
      else .ok (some (Text.trim text))
    | some _ => .error (.malformedRequest (name ++ " must be a string"))

/-- The details of a remediation, where a null counts as absent. -/
def detailsOf (members : Json.Members) : Option Json :=
  match members.get? detailsName with
  | some .null => none
  | details => details

def ofJson (value : Json) : Except SchedulerError Message :=
  match value with
  | .object members => do
    let region ← firstText members regionNames
    let account ← firstText members accountNames
    return { region, account, details := detailsOf members }
  | _ => .error (.malformedRequest "message must be a JSON object")

end Message

namespace ContinuationToken

/-- The first text under one of the names that is not blank, trimmed; values
of other kinds are passed over. -/
def firstOf (members : Json.Members) : List String → Option ContinuationToken
  | [] => none
  | name :: others =>
    match members.get? name with
    | some (.string text) =>
      if Text.isBlank text then firstOf members others
      else some ⟨Text.trim text⟩
    | _ => firstOf members others

/-- The token that can be recovered from a message, whatever else is in it. -/
def ofJson? (value : Json) : Option ContinuationToken :=
  match value with
  | .object members => firstOf members Message.tokenNames
  | _ => none

end ContinuationToken

end Pacing
