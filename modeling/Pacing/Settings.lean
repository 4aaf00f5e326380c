import Pacing.Failure
import Pacing.Retry
import Pacing.Text.Blank
import Pacing.Text.Numeral

/-!
# Settings

The settings of the service, read once from named texts.  A text is trimmed,
and a blank one counts as not set.  The settings are looked at in a fixed
order, and the first defective one decides the error.
-/

namespace Pacing

structure Settings where
  waitThreshold : UInt64
  tableName : String
  /-- Where delays are recorded; nothing is recorded without it. -/
  metricsNamespace : Option String
  retry : RetryPolicy
  deriving DecidableEq, Repr

namespace Settings

def waitThresholdName : String := "WAIT_THRESHOLD_SECONDS"

def tableNameName : String := "SCHEDULING_TABLE_NAME"

def enableMetricsName : String := "ENABLE_CUSTOM_METRICS"

def metricsNamespaceName : String := "METRICS_NAMESPACE"

def maxAttemptsName : String := "SCHEDULING_MAX_ATTEMPTS"

def retryBaseName : String := "SCHEDULING_RETRY_BASE_MS"

def retryMaxName : String := "SCHEDULING_RETRY_MAX_MS"

def defaultMetricsNamespace : String := "RemediationScheduler"

abbrev Lookup := String → Option String

/-- The trimmed text of a setting, unless it is blank. -/
def setting? (lookup : Lookup) (name : String) : Option String :=
  match lookup name with
  | none => none
  | some text => if Text.isBlank text then none else some (Text.trim text)

/-- The text of a setting that has to be set. -/
def require (lookup : Lookup) (name : String) : Except SchedulerError String :=
  match setting? lookup name with
  | some text => .ok text
  | none => .error (.missingConfiguration name)

/-- The number that the text of a setting denotes. -/
def number {α : Type} (read : String → Except Text.NumeralError α) (name text : String) :
    Except SchedulerError α :=
  (read text).mapError fun error =>
    .invalidConfiguration name
      ("'" ++ text ++ "' is not a non-negative integer: " ++ error.message)

/-- The number of a setting that may be left out. -/
def numberOr {α : Type} (lookup : Lookup) (read : String → Except Text.NumeralError α)
    (name : String) (default : α) : Except SchedulerError α :=
  match setting? lookup name with
  | some text => number read name text
  | none => .ok default

/-- The texts that switch a setting on, in any case of their ASCII letters. -/
def isTruthy (text : String) : Bool :=
  ["true", "yes", "1", "on"].contains (String.ofList (text.toList.map Char.toLower))

/-- The namespace for recorded delays, if recording is switched on. -/
def metricsNamespace? (lookup : Lookup) : Option String :=
  if ((setting? lookup enableMetricsName).map isTruthy).getD false then
    some ((setting? lookup metricsNamespaceName).getD defaultMetricsNamespace)
  else none

def readWaitThreshold (lookup : Lookup) : Except SchedulerError UInt64 := do
  number Text.readUInt64 waitThresholdName (← require lookup waitThresholdName)

/-- Reads all settings. -/
def read (lookup : Lookup) : Except SchedulerError Settings := do
  let waitThreshold ← readWaitThreshold lookup
  let tableName ← require lookup tableNameName
  let maxAttempts ←
    numberOr lookup Text.readUInt32 maxAttemptsName RetryPolicy.defaultAttempts
  let baseDelay ←
    numberOr lookup (fun text => (Text.readUInt64 text).map Span.ofMillis) retryBaseName
      RetryPolicy.defaultBaseDelay
  let maxDelay ←
    numberOr lookup (fun text => (Text.readUInt64 text).map Span.ofMillis) retryMaxName
      RetryPolicy.defaultMaxDelay
  return {
    waitThreshold
    tableName
    metricsNamespace := metricsNamespace? lookup
    retry := RetryPolicy.of maxAttempts baseDelay maxDelay }

/-- Whether the settings switch the spacing off; this is worth a warning even
where a later setting turns out to be defective. -/
def disablesSpacing (lookup : Lookup) : Bool :=
  match readWaitThreshold lookup with
  | .ok threshold => threshold == 0
  | .error _ => false

end Settings

end Pacing
