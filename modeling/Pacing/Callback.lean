import Pacing.Civil.Moment
import Pacing.Failure
import Pacing.Json.Writer
import Pacing.Text.Parts

/-!
# Callbacks

What a waiting workflow is told: the planned time beside the details of its
request, or the class and the text of a failure.  The handle with which the
workflow is resumed is a continuation token, of which only the head is ever
shown.
-/

namespace Pacing

structure ContinuationToken where
  text : String
  deriving DecidableEq, Repr

namespace ContinuationToken

/-- A token as it may be shown: its first eight characters. -/
def redacted (token : ContinuationToken) : String :=
  "ContinuationToken(" ++ Text.truncate token.text 8 ++ "...)"

end ContinuationToken

/-- The text of a planned time, for the times that have a date. -/
def plannedTimestamp (plannedAt : Int64) : Except SchedulerError String :=
  match Civil.Moment.textOfSeconds? plannedAt.toInt with
  | some text => .ok text
  | none => .error (.invalidTimestamp plannedAt)

structure SuccessCallback where
  timestamp : String
  details : Json.Members

namespace SuccessCallback

def timestampName : String := "PlannedTimestamp"

def of (plannedAt : Int64) (details : Json.Members) :
    Except SchedulerError SuccessCallback :=
  (plannedTimestamp plannedAt).map fun timestamp => { timestamp, details }

/-- The details with the planned time among them, instead of what they held
under its name. -/
def toJson (callback : SuccessCallback) : Json :=
  .object (callback.details.insert timestampName (.string callback.timestamp))

def text (callback : SuccessCallback) : String :=
  callback.toJson.compact

end SuccessCallback

structure FailureCallback where
  className : String
  message : String
  deriving DecidableEq, Repr

namespace FailureCallback

def of (error : SchedulerError) : FailureCallback :=
  ⟨error.className, error.message⟩

end FailureCallback

end Pacing
