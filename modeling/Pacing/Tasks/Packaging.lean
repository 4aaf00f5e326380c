import Pacing.Tasks.Command
import Pacing.Tasks.Runner
import Pacing.Text.Blank
import Pacing.Text.Parts

/-!
# Packaging

The service is packaged as an archive that holds its binary.  The archive is
written last, when the target can run the service and is installed, the build
has succeeded and the binary of that target and profile is there.
-/

namespace Pacing.Tasks.Packaging

open Running

/-- The targets that can run the service. -/
def supportedTargets : List String :=
  ["x86_64-unknown-linux-gnu", "x86_64-unknown-linux-musl",
   "aarch64-unknown-linux-gnu", "aarch64-unknown-linux-musl"]

/-- Why a target cannot be packaged, if it cannot. -/
def targetDefect? (target : String) : Option String :=
  if supportedTargets.contains target then none
  else
    some ("target `" ++ target ++ "` cannot run on Lambda; use one of: " ++
      ", ".intercalate supportedTargets)

def requireSupported (target : String) : Running Unit :=
  match targetDefect? target with
  | none => succeed ()
  | some defect => fail (.unmet defect)

/-- Whether a target is listed on a line of its own. -/
def isListed (target output : String) : Bool :=
  (Text.pieces '\n' output.toList).any fun line => Text.trimChars line == target.toList

/-- The target has to be installed, as far as that can be found out. -/
def requireInstalled (target : String) : Running Unit :=
  (ask .listTargets).andThen fun
    | .notStarted reason =>
      print ("warning: failed to run `rustup target list --installed` (" ++ reason ++
        "); continuing without target preflight\n")
    | .finished false _ errors =>
      fail (.unmet ("failed to list installed rust targets; run " ++
        "`rustup target list --installed` manually. details: " ++ Text.trim errors))
    | .finished true output _ =>
      if isListed target output then succeed ()
      else
        fail (.unmet ("required rust target `" ++ target ++
          "` is not installed. install it with `rustup target add " ++ target ++
          "` and re-run `cargo run -p xtask -- serverless-package`"))

/-- The arguments with which the binary is built. -/
def buildArguments (target : String) (profile : Profile) : List String :=
  ["build", "-p", "remediation_scheduler_lambda", "--target", target,
    "--bin", "scheduler_lambda"] ++ profile.flag?.toList

def binaryPath (target : String) (profile : Profile) : String :=
  "target/" ++ target ++ "/" ++ profile.directory ++ "/scheduler_lambda"

def archivePath : String := "infra/remediation_scheduler/dist/scheduler.zip"

/-- The archive of a binary: one compressed file that everybody may run, under
the name by which the service is started. -/
def archiveOf (content : ByteArray) : List ArchiveEntry :=
  [{ name := "bootstrap", deflated := true, mode := 0o100755, content }]

/-- Puts the binary under a path into the archive. -/
def pack (path : String) : Running Unit :=
  (ask (.readFile path)).andThen fun
    | none => fail (.unmet ("expected lambda binary at '" ++ path ++ "'"))
    | some content => ask (.writeArchive archivePath (archiveOf content))

def run (target : String) (profile : Profile) : Running Unit :=
  (requireSupported target).andThen fun _ =>
  (requireInstalled target).andThen fun _ =>
  (announce "Build scheduler lambda binary").andThen fun _ =>
  (build (buildArguments target profile)).andThen fun _ =>
  (announce "Package Terraform lambda zip artifact").andThen fun _ =>
  (pack (binaryPath target profile)).andThen fun _ =>
  print ("\nPackaged artifact:\n- " ++ archivePath ++ "\n")

end Pacing.Tasks.Packaging
