/-!
# Failures

The ways in which scheduling can fail, as causes.  Each kind of failure has
one function for its text, and the failures that end a request have a class
name under which the waiting workflow learns of them.
-/

namespace Pacing

/-- Failures of a schedule store. -/
inductive StoreError where
  | alreadyExists (scope : String)
  | conditionFailed (scope : String)
  | unavailable (reason : String)
  | invalidRecord (reason : String)
  deriving DecidableEq, Repr

namespace StoreError

def message : StoreError → String
  | .alreadyExists scope => "a schedule record already exists for scope " ++ scope
  | .conditionFailed scope => "conditional write rejected for scope " ++ scope
  | .unavailable reason => "scheduling store unavailable: " ++ reason
  | .invalidRecord reason => "stored schedule record is malformed: " ++ reason

/-- Whether a write was rejected because of another writer. -/
def isWriteConflict : StoreError → Bool
  | .alreadyExists _ => true
  | .conditionFailed _ => true
  | .unavailable _ => false
  | .invalidRecord _ => false

end StoreError

/-- Failures that end the handling of a request or the start of the service. -/
inductive SchedulerError where
  | missingConfiguration (setting : String)
  | invalidConfiguration (setting reason : String)
  | malformedRequest (reason : String)
  | storeUnavailable (error : StoreError)
  | corruptRecord (reason : String)
  | retriesExhausted (attempts : UInt32)
  | invalidTimestamp (plannedAt : Int64)
  | callbackDeliveryFailed (reason : String)
  deriving DecidableEq, Repr

namespace SchedulerError

def className : SchedulerError → String
  | .missingConfiguration _ => "MissingConfiguration"
  | .invalidConfiguration .. => "InvalidConfiguration"
  | .malformedRequest _ => "MalformedRequest"
  | .storeUnavailable _ => "StoreUnavailable"
  | .corruptRecord _ => "CorruptRecord"
  | .retriesExhausted _ => "RetriesExhausted"
  | .invalidTimestamp _ => "InvalidTimestamp"
  | .callbackDeliveryFailed _ => "CallbackDeliveryFailed"

def message : SchedulerError → String
  | .missingConfiguration setting =>
    "required configuration " ++ setting ++ " is not set"
  | .invalidConfiguration setting reason =>
    "configuration " ++ setting ++ " is invalid: " ++ reason
  | .malformedRequest reason => "malformed scheduling request: " ++ reason
  | .storeUnavailable error => error.message
  | .corruptRecord reason => "stored schedule record is corrupt: " ++ reason
  | .retriesExhausted attempts =>
    "schedule commit kept conflicting after " ++ toString attempts.toNat ++ " attempts"
  | .invalidTimestamp plannedAt =>
    "planned timestamp " ++ toString plannedAt.toInt ++
      " cannot be represented as a UTC date"
  | .callbackDeliveryFailed reason =>
    "workflow callback could not be delivered: " ++ reason

/-- The failure of a request whose store failed: a malformed record is
corrupt, and for any other reason the store is unavailable. -/
def ofStore : StoreError → SchedulerError
  | .invalidRecord reason => .corruptRecord reason
  | error => .storeUnavailable error

end SchedulerError

/-- Why a workflow could not be resumed. -/
inductive NotifyError where
  | invalidToken (reason : String)
  | delivery (reason : String)
  deriving DecidableEq, Repr

namespace NotifyError

def message : NotifyError → String
  | .invalidToken reason => "workflow rejected the continuation token: " ++ reason
  | .delivery reason => "workflow callback failed: " ++ reason

end NotifyError

/-- Why a measurement could not be recorded. -/
structure MetricsError where
  reason : String
  deriving DecidableEq, Repr

namespace MetricsError

def message (error : MetricsError) : String :=
  "metric emission failed: " ++ error.reason

end MetricsError

end Pacing
