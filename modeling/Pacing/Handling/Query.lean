import Pacing.Callback
import Pacing.Dialogue
import Pacing.Handling.Note
import Pacing.Schedule.Record
import Pacing.Span

/-!
# Collaborators of the handling of messages

What the handling of messages asks of its collaborators: a clock, a source of
chance, a schedule store, a recorder of delays and a notifier of workflows.
-/

namespace Pacing

inductive Query where
  /-- The current time. -/
  | now
  /-- A number from zero to a bound, both included, by chance. -/
  | draw (bound : Nat)
  | sleep (span : Span)
  | read (key : ScopeKey)
  | create (record : ScheduleRecord)
  | update (key : ScopeKey) (expected : Int64) (record : ScheduleRecord)
  /-- Records a delay in seconds. -/
  | record (delay : Int)
  | notifySuccess (token : ContinuationToken) (callback : SuccessCallback)
  | notifyFailure (token : ContinuationToken) (callback : FailureCallback)

namespace Query

/-- What a collaborator can reply to a query. -/
@[reducible] def Reply : Query → Type
  | .now => Int64
  | .draw bound => Fin (bound + 1)
  | .sleep _ => Unit
  | .read _ => Except StoreError (Option ScheduleRecord)
  | .create _ => Except StoreError Unit
  | .update .. => Except StoreError Unit
  | .record _ => Except MetricsError Unit
  | .notifySuccess .. => Except NotifyError Unit
  | .notifyFailure .. => Except NotifyError Unit

end Query

/-- A part of the handling of messages. -/
abbrev Handling (Result : Type) := Dialogue Query Query.Reply Note Result

namespace Handling

/-- Asks a collaborator. -/
def ask (query : Query) : Handling (Query.Reply query) :=
  Dialogue.request query

/-- Tells the operators. -/
def tell (note : Note) : Handling Unit :=
  Dialogue.say note

end Handling

end Pacing
