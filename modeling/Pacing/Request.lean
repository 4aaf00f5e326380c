import Pacing.Message
import Pacing.Scope
import Pacing.Json.Reader

/-!
# Requests

A message that can be scheduled, and the reading of messages into requests.
A message that cannot be scheduled keeps its continuation token if it has one,
so that its workflow can be told.
-/

namespace Pacing

structure Request where
  scope : ScopeKey
  token : ContinuationToken
  details : Json.Members
  /-- When the request arrived. -/
  observedAt : Int64

/-- A message that is no request. -/
structure MalformedMessage where
  token : Option ContinuationToken
  error : SchedulerError
  deriving DecidableEq, Repr

namespace Request

/-- The details of a request have to be an object. -/
def requireDetails (details : Option Json) : Except SchedulerError Json.Members :=
  match details with
  | some (.object members) => .ok members
  | some _ => .error (.malformedRequest "RemediationDetails must be a JSON object")
  | none => .error (.malformedRequest "RemediationDetails is missing")

def requireToken (token : Option ContinuationToken) :
    Except SchedulerError ContinuationToken :=
  match token with
  | some token => .ok token
  | none => .error (.malformedRequest "ContinuationToken is missing")

/-- The request of a message, or what is wrong with the message first: its
fields, its token, its scope, its details. -/
def ofFields (value : Json) (observedAt : Int64) : Except SchedulerError Request := do
  let message ← Message.ofJson value
  let token ← requireToken (ContinuationToken.ofJson? value)
  let scope ← ScopeKey.ofNames (message.account.getD "") (message.region.getD "")
  let details ← requireDetails message.details
  return { scope, token, details, observedAt }

def ofJson (value : Json) (observedAt : Int64) : Except MalformedMessage Request :=
  (ofFields value observedAt).mapError fun error =>
    { token := ContinuationToken.ofJson? value, error }

/-- Reads the request in the body of a message. -/
def read (body : String) (observedAt : Int64) : Except MalformedMessage Request :=
  match Json.read body with
  | .ok value => ofJson value observedAt
  | .error defect =>
    .error
      { token := none
        error := .malformedRequest ("body is not valid JSON: " ++ defect.message) }

end Request

end Pacing
