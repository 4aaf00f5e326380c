import Pacing.Text.Numeral
import Pacing.Text.Quoted

/-!
# Dispositions

How the handling of one queued message ended.
-/

namespace Pacing

inductive Disposition where
  /-- A slot was committed and the workflow was told. -/
  | scheduled (plannedAt : Int64) (attempts : Nat)
  /-- The workflow was told of a failure. -/
  | failureReported (className : String)
  /-- Nobody could be told. -/
  | dropped (reason : String)
  /-- The workflow could not be reached. -/
  | callbackUndelivered (className : String)
  deriving DecidableEq, Repr

namespace Disposition

/-- A disposition as the log shows it. -/
def description : Disposition → String
  | .scheduled plannedAt attempts =>
    "Scheduled \x7b planned_at: " ++ Text.numeral plannedAt.toInt ++
      ", attempts: " ++ Text.numeral attempts ++ " \x7d"
  | .failureReported className =>
    "FailureReported \x7b error_class_name: " ++ Text.quoted className ++ " \x7d"
  | .dropped reason => "Dropped \x7b reason: " ++ Text.quoted reason ++ " \x7d"
  | .callbackUndelivered className =>
    "CallbackUndelivered \x7b error_class_name: " ++ Text.quoted className ++ " \x7d"

end Disposition

end Pacing
