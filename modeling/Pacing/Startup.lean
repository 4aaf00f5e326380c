import Pacing.Handling.Note
import Pacing.LogFilter
import Pacing.Settings

/-!
# Starting the service

The service reads its settings, tells its operators what it has found, and
either goes on to serve or refuses to start.
-/

namespace Pacing

namespace Startup

def logFilterName : String := "RUST_LOG"

/-- What the operators are told when the service starts. -/
def notes (lookup : Settings.Lookup) : List Note :=
  (if Settings.disablesSpacing lookup then
    [.spacingDisabled Settings.waitThresholdName]
  else []) ++
    match Settings.read lookup with
    | .error error => [.refusedToStart error]
    | .ok settings =>
      [.starting settings.tableName settings.waitThreshold
        settings.metricsNamespace.isSome settings.retry.maxAttempts]

/-- The source of the lines about the settings. -/
def settingsSource : String := "remediation_scheduler_core::config"

/-- The source of the lines about the service itself. -/
def serviceSource : String := "scheduler_lambda"

/-- The source of a note. -/
def source : Note → String
  | .spacingDisabled _ => settingsSource
  | _ => serviceSource

/-- The filter that applies: the one that is set, or one that shows the lines up
to level `info` if none is set or the one that is set is malformed.  There is
none if the text that is set cannot be cut into its parts. -/
def logFilter? (lookup : Settings.Lookup) : Option LogFilter :=
  match (lookup logFilterName).map LogFilter.read with
  | none => some (.upTo .info)
  | some (.ok filter) => some filter
  | some (.error .malformed) => some (.upTo .info)
  | some (.error .cutCharacter) => none

/-- The log lines of the start that are shown. -/
def shownLines (lookup : Settings.Lookup) : List LogLine :=
  match logFilter? lookup with
  | none => []
  | some filter =>
    ((notes lookup).filter fun note => filter.shows (source note) note.line).map Note.line

/-- How the start of the service ends. -/
inductive Outcome where
  /-- Without a filter the service breaks off before it reads its settings. -/
  | brokenOff
  | refused (error : SchedulerError)
  | ready (settings : Settings)

def outcome (lookup : Settings.Lookup) : Outcome :=
  match logFilter? lookup with
  | none => .brokenOff
  | some _ =>
    match Settings.read lookup with
    | .error error => .refused error
    | .ok settings => .ready settings

/-- The exit status of a service that refuses to start. -/
def refusalStatus : Nat := 1

/-- The exit status of a service that breaks off. -/
def breakStatus : Nat := 101

/-- The last words of a service that refuses to start. -/
def refusalText (error : SchedulerError) : String :=
  "Error: " ++ Text.quoted error.message ++ "\n"

end Startup

end Pacing
