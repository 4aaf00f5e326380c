import Pacing.Handling.Commit
import Pacing.Request

/-!
# Handling a message

A request is scheduled, and its workflow is resumed by one call of the
notifier: with the planned time, or with the failure that came before it.  A
message without a usable token is dropped, since there is nobody to tell.
-/

namespace Pacing.Handling

/-- The workflow stays blocked on its token; an operator has to know. -/
def reportUndelivered (scope : Option ScopeKey) (callbackKind : String)
    (error : NotifyError) : Handling Disposition := do
  let failure := SchedulerError.callbackDeliveryFailed error.message
  tell (.callbackUndelivered scope callbackKind failure)
  return .callbackUndelivered failure.className

/-- Tells a workflow of a failure. -/
def reportFailure (token : ContinuationToken) (scope : Option ScopeKey)
    (failure : SchedulerError) : Handling Disposition := do
  let callback := FailureCallback.of failure
  tell (.reportingFailure scope callback.className callback.message)
  match ← ask (.notifyFailure token callback) with
  | .ok () => return .failureReported callback.className
  | .error error => reportUndelivered scope "failure" error

/-- The delay between the arrival of a request and its planned time, as a
recorder takes it. -/
def delaySeconds (plannedAt observedAt : Int64) : Int :=
  Binary64.nearestInteger (Seconds.sub plannedAt observedAt).toInt

/-- Records the delay of a request if delays are recorded.  What the recorder
replies goes into the log and changes nothing else. -/
def recordDelay (records : Bool) (plannedAt observedAt : Int64) : Handling Unit := do
  if records then
    let delay := delaySeconds plannedAt observedAt
    match ← ask (.record delay) with
    | .ok () => tell (.delayRecorded delay)
    | .error error => tell (.delayNotRecorded delay error)

/-- Commits a slot for a request, and words the callback for it. -/
def commitCallback (terms : Terms) (request : Request) :
    Handling (Except SchedulerError (Slot × SuccessCallback)) := do
  match ← commit terms request.scope with
  | .error error => return .error error
  | .ok slot =>
    match SuccessCallback.of slot.plannedAt request.details with
    | .error error => return .error error
    | .ok callback => return .ok (slot, callback)

/-- Schedules a request and resumes its workflow. -/
def handleRequest (terms : Terms) (request : Request) : Handling Disposition := do
  match ← commitCallback terms request with
  | .error error => reportFailure request.token (some request.scope) error
  | .ok (slot, callback) =>
    recordDelay terms.records slot.plannedAt request.observedAt
    match ← ask (.notifySuccess request.token callback) with
    | .ok () =>
      tell (.scheduled request.scope slot.plannedAt callback.timestamp slot.attempts
        (Seconds.sub slot.plannedAt request.observedAt))
      return .scheduled slot.plannedAt slot.attempts
    | .error error => reportUndelivered (some request.scope) "success" error

/-- Handles the body of a message that arrived at a given time. -/
def handleMessage (terms : Terms) (body : String) (observedAt : Int64) :
    Handling Disposition := do
  match Request.read body observedAt with
  | .ok request => handleRequest terms request
  | .error ⟨some token, error⟩ => reportFailure token none error
  | .error ⟨none, error⟩ =>
    tell (.requestDropped error)
    return .dropped error.message

end Pacing.Handling
