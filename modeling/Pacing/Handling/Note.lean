import Pacing.Failure
import Pacing.Handling.Disposition
import Pacing.Log
import Pacing.Scope

/-!
# Notes

What the service tells its operators while it starts and while it handles
messages.  A note holds the facts; its log line gives them their wording.
-/

namespace Pacing

/-- How one attempt at a commit ended: durably written, or lost to another
writer. -/
inductive AttemptOutcome where
  | committed
  | conflict
  deriving DecidableEq, Repr

inductive Note where
  | spacingDisabled (setting : String)
  | refusedToStart (error : SchedulerError)
  | starting (tableName : String) (waitThreshold : UInt64) (metricsEnabled : Bool)
      (maxAttempts : UInt32)
  | attemptFinished (scope : ScopeKey) (now plannedAt : Int64) (previous : Option Int64)
      (outcome : AttemptOutcome)
  | writeLost (scope : ScopeKey) (attempt : Nat) (maxAttempts : UInt32)
      (previous : Option Int64)
  | reportingFailure (scope : Option ScopeKey) (className message : String)
  | requestDropped (error : SchedulerError)
  | callbackUndelivered (scope : Option ScopeKey) (callbackKind : String)
      (error : SchedulerError)
  | delayRecorded (delay : Int)
  | delayNotRecorded (delay : Int) (error : MetricsError)
  | scheduled (scope : ScopeKey) (plannedAt : Int64) (timestamp : String) (attempts : Nat)
      (delay : Int64)
  | bodyMissing (messageId : Option String)
  | messageHandled (messageId : Option String) (disposition : Disposition)
  deriving DecidableEq, Repr

namespace Note

private def textField (name value : String) : String × FieldValue :=
  (name, .text value)

private def integerField (name : String) (value : Int) : String × FieldValue :=
  (name, .integer value)

private def alertField : String × FieldValue :=
  ("alert", .flag true)

private def scopeField (scope : ScopeKey) : String × FieldValue :=
  textField "scope_key" scope.text

private def optionalText (name : String) (value : Option String) :
    List (String × FieldValue) :=
  LogLine.optionalField name (value.map FieldValue.text)

private def optionalScope (scope : Option ScopeKey) : List (String × FieldValue) :=
  optionalText "scope_key" (scope.map ScopeKey.text)

private def optionalTime (name : String) (time : Option Int64) :
    List (String × FieldValue) :=
  LogLine.optionalField name (time.map fun time => .integer time.toInt)

private def errorFields (error : SchedulerError) : List (String × FieldValue) :=
  [textField "error_class_name" error.className, textField "error" error.message]

private def outcomeText : AttemptOutcome → String
  | .committed => "Committed"
  | .conflict => "Conflict"

/-- The log line of a note. -/
def line : Note → LogLine
  | .spacingDisabled setting =>
    ⟨.warn, "wait threshold is zero; remediations will not be debounced",
      [textField "var" setting]⟩
  | .refusedToStart error =>
    ⟨.error, "refusing to start: scheduler configuration is incomplete",
      errorFields error⟩
  | .starting tableName waitThreshold metricsEnabled maxAttempts =>
    ⟨.info, "remediation scheduler starting",
      [textField "table_name" tableName,
        integerField "wait_threshold_seconds" waitThreshold.toNat,
        ("metrics_enabled", .flag metricsEnabled),
        integerField "max_attempts" maxAttempts.toNat]⟩
  | .attemptFinished scope now plannedAt previous outcome =>
    ⟨.debug, "schedule attempt finished",
      [scopeField scope, integerField "now" now.toInt,
        integerField "planned_at" plannedAt.toInt] ++
        optionalTime "previous_executed_at" previous ++
        [textField "outcome" (outcomeText outcome)]⟩
  | .writeLost scope attempt maxAttempts previous =>
    ⟨.warn, "schedule commit lost a concurrent write",
      [scopeField scope, integerField "attempt" attempt,
        integerField "max_attempts" maxAttempts.toNat] ++
        optionalTime "observed_executed_at" previous⟩
  | .reportingFailure scope className message =>
    ⟨.warn, "scheduling failed; reporting to workflow",
      optionalScope scope ++
        [textField "error_class_name" className, textField "error" message]⟩
  | .requestDropped error =>
    ⟨.error,
      "scheduling request dropped: no continuation token to report the failure to",
      alertField :: errorFields error⟩
  | .callbackUndelivered scope callbackKind error =>
    ⟨.error, "workflow callback could not be delivered",
      alertField :: optionalScope scope ++
        textField "callback_kind" callbackKind :: errorFields error⟩
  | .delayRecorded delay =>
    ⟨.debug, "scheduling delay recorded",
      [textField "delay_seconds" (Text.numeral delay)]⟩
  | .delayNotRecorded delay error =>
    ⟨.warn, "scheduling delay metric dropped",
      [textField "delay_seconds" (Text.numeral delay), textField "error" error.message]⟩
  | .scheduled scope plannedAt timestamp attempts delay =>
    ⟨.info, "remediation scheduled",
      [scopeField scope, integerField "planned_at" plannedAt.toInt,
        textField "planned_timestamp" timestamp, integerField "attempts" attempts,
        integerField "delay_seconds" delay.toInt]⟩
  | .bodyMissing messageId =>
    ⟨.error, "scheduling message dropped: record has no string body",
      alertField :: optionalText "message_id" messageId ++
        [textField "error_class_name" "MalformedRequest"]⟩
  | .messageHandled messageId disposition =>
    ⟨.info, "scheduling message handled",
      optionalText "message_id" messageId ++
        [textField "disposition" disposition.description]⟩

end Note

end Pacing
