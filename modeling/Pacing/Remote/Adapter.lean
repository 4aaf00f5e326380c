import Pacing.Handling.Batch
import Pacing.Remote.Service
import Pacing.Settings
import Pacing.Text.Parts

/-!
# Collaborators behind remote services

How the collaborators of the handling of messages are played by remote
services.  The schedule store is a table with one item for each scope: creates
are guarded by the absence of the item and updates by its last execution, so
that concurrent writers always notice each other.  Time and chance stay local.
-/

namespace Pacing.Remote

/-- What is asked outside of the service: requests to remote services, and
what the machine itself provides. -/
inductive Query where
  | now
  | draw (bound : Nat)
  | sleep (span : Span)
  | send (request : ServiceRequest)

namespace Query

@[reducible] def Reply : Query → Type
  | .now => Int64
  | .draw bound => Fin (bound + 1)
  | .sleep _ => Unit
  | .send request => request.Reply

end Query

/-- A dialogue with the remote services. -/
abbrev Remoting (Result : Type) := Dialogue Query Query.Reply Note Result

/-- Sends a request to its service. -/
def send (request : ServiceRequest) : Remoting request.Reply :=
  Dialogue.request (Query.send request)

/-! ## The schedule table -/

namespace Table

def keySign : NameSign := ⟨"#pk", Item.partitionKey⟩

def lastExecutedSign : NameSign := ⟨"#ts", Item.lastExecutedName⟩

def expirySign : NameSign := ⟨"#ttl", Item.expiryName⟩

/-- The exception with which the table refuses a write whose condition does
not hold. -/
def conditionFailedName : String := "ConditionalCheckFailedException"

def getRequest (table : String) (key : ScopeKey) : ServiceRequest :=
  .getItem table key.text

def createRequest (table : String) (record : ScheduleRecord) : ServiceRequest :=
  .putItem table (Item.ofRecord record) (.absent keySign)

def updateRequest (table : String) (key : ScopeKey) (expected : Int64)
    (record : ScheduleRecord) : ServiceRequest :=
  .updateItem table key.text
    [⟨lastExecutedSign, ⟨":next", .ofTime record.lastExecutedAt⟩⟩,
      ⟨expirySign, ⟨":ttl", .ofTime record.expiresAt⟩⟩]
    (.equals lastExecutedSign ⟨":expected", .ofTime expected⟩)

/-- The record that a reply to a read holds. -/
def readReply (reply : Except ServiceFailure (Option Item)) :
    Except StoreError (Option ScheduleRecord) :=
  match reply with
  | .error failure =>
    .error (.unavailable ("failed to read schedule item: " ++ failure.detail))
  | .ok none => .ok none
  | .ok (some item) => item.toRecord.map some

/-- The outcome of a conditional write.  Only the exception for a condition
that does not hold is a rejection. -/
def writeReply (rejection : StoreError) (action : String)
    (reply : Except ServiceFailure Unit) : Except StoreError Unit :=
  match reply with
  | .ok () => .ok ()
  | .error failure =>
    if failure.isOneOf [conditionFailedName] then .error rejection
    else
      .error (.unavailable ("failed to " ++ action ++ " schedule item: " ++ failure.detail))

/-- A request to a table, which has to have a name: without one the request
fails before it is sent. -/
def ask {Result : Type} (table : String)
    (request : Remoting (Except ServiceFailure Result)) :
    Remoting (Except ServiceFailure Result) :=
  if Text.isBlank table then return .error ⟨none, ""⟩ else request

def read (table : String) (key : ScopeKey) :
    Remoting (Except StoreError (Option ScheduleRecord)) := do
  let reply ← ask table (send (getRequest table key))
  return readReply reply

def create (table : String) (record : ScheduleRecord) :
    Remoting (Except StoreError Unit) := do
  let reply ← ask table (send (createRequest table record))
  return writeReply (.alreadyExists record.scope.text) "create" reply

def update (table : String) (key : ScopeKey) (expected : Int64) (record : ScheduleRecord) :
    Remoting (Except StoreError Unit) := do
  let reply ← ask table (send (updateRequest table key expected record))
  return writeReply (.conditionFailed key.text) "update" reply

end Table

/-! ## The workflow service -/

namespace Workflow

/-- The exceptions by which the service reports that a token is of no use any
more. -/
def staleTokenNames : List String :=
  ["InvalidToken", "TaskDoesNotExist", "TaskTimedOut"]

/-- How many characters of the class and of the text of a failure the service
takes. -/
def greatestErrorLength : Nat := 256

def greatestCauseLength : Nat := 32768

def successRequest (token : ContinuationToken) (callback : SuccessCallback) :
    ServiceRequest :=
  .sendTaskSuccess token.text callback.text

def failureRequest (token : ContinuationToken) (callback : FailureCallback) :
    ServiceRequest :=
  .sendTaskFailure token.text (Text.truncate callback.className greatestErrorLength)
    (Text.truncate callback.message greatestCauseLength)

def notifyReply (action : String) (reply : Except ServiceFailure Unit) :
    Except NotifyError Unit :=
  match reply with
  | .ok () => .ok ()
  | .error failure =>
    let reason := action ++ ": " ++ failure.detail
    if failure.isOneOf staleTokenNames then .error (.invalidToken reason)
    else .error (.delivery reason)

def notifySuccess (token : ContinuationToken) (callback : SuccessCallback) :
    Remoting (Except NotifyError Unit) := do
  let reply ← send (successRequest token callback)
  return notifyReply "send_task_success" reply

def notifyFailure (token : ContinuationToken) (callback : FailureCallback) :
    Remoting (Except NotifyError Unit) := do
  let reply ← send (failureRequest token callback)
  return notifyReply "send_task_failure" reply

end Workflow

/-! ## The metrics service -/

namespace Metrics

def delayName : String := "RemediationSchedulingDelay"

def record (metricsNamespace : String) (delay : Int) :
    Remoting (Except MetricsError Unit) := do
  let reply ← send (.putMetricData metricsNamespace delayName delay)
  return reply.mapError fun failure => ⟨"put_metric_data: " ++ failure.detail⟩

end Metrics

/-! ## The service as a whole -/

/-- The terms on which the service handles requests. -/
def terms (settings : Settings) : Terms :=
  { waitThreshold := settings.waitThreshold
    retry := settings.retry
    records := settings.metricsNamespace.isSome }

/-- How a remote service answers a query of the handling of messages. -/
def answer (settings : Settings) :
    (query : Pacing.Query) → Remoting (Pacing.Query.Reply query)
  | .now => Dialogue.request Query.now
  | .draw bound => Dialogue.request (Query.draw bound)
  | .sleep span => Dialogue.request (Query.sleep span)
  | .read key => Table.read settings.tableName key
  | .create record => Table.create settings.tableName record
  | .update key expected record => Table.update settings.tableName key expected record
  | .record delay =>
    Metrics.record (settings.metricsNamespace.getD Settings.defaultMetricsNamespace) delay
  | .notifySuccess token callback => Workflow.notifySuccess token callback
  | .notifyFailure token callback => Workflow.notifyFailure token callback

/-- A part of the handling of messages, carried out through the services. -/
def serve {Result : Type} (settings : Settings) (handling : Handling Result) :
    Remoting Result :=
  handling.interpret (answer settings)

/-- Handles an event of the queue through the services. -/
def serveEvent (settings : Settings) (event : Json) :
    Remoting (Except BatchError Tally) :=
  serve settings (Handling.handleEvent (terms settings) event)

end Pacing.Remote
