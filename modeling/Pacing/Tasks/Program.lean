import Pacing.Tasks.CommandLine
import Pacing.Tasks.Packaging

/-!
# The task runner

The work for each command, and the exit status that it ends with.  The checks of
the workspace are those of its formatting, its lints and its tests.
-/

namespace Pacing.Tasks

namespace Checks

open Running

def lint : Running Unit :=
  (announce "Check formatting").andThen fun _ =>
  (build ["fmt", "--all", "--", "--check"]).andThen fun _ =>
  (announce "Clippy").andThen fun _ =>
  build ["clippy", "--all-targets", "--all-features", "--", "-D", "warnings"]

def test : Running Unit :=
  (announce "Test remediation_scheduler_core").andThen fun _ =>
  (build ["test", "-p", "remediation_scheduler_core"]).andThen fun _ =>
  (announce "Test remediation_scheduler_lambda").andThen fun _ =>
  build ["test", "-p", "remediation_scheduler_lambda"]

def run : Job → Running Unit
  | .lint => lint
  | .test => test
  | .check => lint.andThen fun _ => test

end Checks

namespace Command

def run : Command → Running Unit
  | .runChecks job => Checks.run job
  | .package target profile => Packaging.run target profile

end Command

/-- The exit status of the task runner after its work. -/
def exitStatus (result : Except Failure Unit) : Nat :=
  match result with
  | .ok () => 0
  | .error failure => failure.exitStatus

end Pacing.Tasks
