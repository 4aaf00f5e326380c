import Pacing.Dialogue

/-!
# Running tools

What the task runner asks of its surroundings: runs of the build tool, the
list of installed targets, the built binary and the place for the archive.
It talks to the terminal on the way, and it goes on only as long as nothing
has failed.
-/

namespace Pacing.Tasks

/-- How a run of the build tool ended. -/
inductive BuildOutcome where
  | notStarted (reason : String)
  | exited (status : Nat)
  | killed
  deriving DecidableEq, Repr

/-- What came of asking for the installed targets. -/
inductive TargetList where
  | notStarted (reason : String)
  | finished (succeeded : Bool) (output errors : String)
  deriving DecidableEq, Repr

/-- One entry of an archive. -/
structure ArchiveEntry where
  name : String
  deflated : Bool
  /-- The type and the permissions of the file. -/
  mode : Nat
  content : ByteArray

inductive Query where
  /-- Runs the build tool. -/
  | build (arguments : List String)
  /-- Lists the installed targets. -/
  | listTargets
  /-- Reads a file, if it is there. -/
  | readFile (path : String)
  /-- Writes an archive in the place of an earlier one. -/
  | writeArchive (path : String) (entries : List ArchiveEntry)

namespace Query

/-- What comes of a query. -/
@[reducible] def Reply : Query → Type
  | .build _ => BuildOutcome
  | .listTargets => TargetList
  | .readFile _ => Option ByteArray
  | .writeArchive .. => Unit

end Query

/-- Why the task runner stopped. -/
inductive Failure where
  /-- A tool failed, and its exit status is passed on. -/
  | status (code : Nat)
  /-- A requirement is not met. -/
  | unmet (message : String)
  deriving DecidableEq, Repr

namespace Failure

/-- The exit status of the task runner. -/
def exitStatus : Failure → Nat
  | .status code => code
  | .unmet _ => 101

end Failure

/-- A part of the work of the task runner; what it tells is written to the
terminal. -/
abbrev Running (Result : Type) :=
  Dialogue Query Query.Reply String (Except Failure Result)

namespace Running

def ask (query : Query) : Running (Query.Reply query) :=
  Dialogue.ask query fun reply => .done (.ok reply)

def print (text : String) : Running Unit :=
  Dialogue.tell text (.done (.ok ()))

def succeed {Result : Type} (result : Result) : Running Result :=
  .done (.ok result)

def fail {Result : Type} (failure : Failure) : Running Result :=
  .done (.error failure)

/-- Goes on with a result, and not at all after a failure. -/
def andThen {Result Further : Type} (running : Running Result)
    (proceed : Result → Running Further) : Running Further :=
  running.bind fun
    | .ok result => proceed result
    | .error failure => .done (.error failure)

/-- Announces a step. -/
def announce (label : String) : Running Unit :=
  print ("\n=== " ++ label ++ " ===\n")

/-- What a run of the build tool leads to: only the exit status zero lets the
work go on, and a run that was killed counts as one with the status one. -/
def requireBuilt : BuildOutcome → Running Unit
  | .exited 0 => succeed ()
  | .exited status => fail (.status status)
  | .killed => fail (.status 1)
  | .notStarted reason => fail (.unmet ("failed to execute cargo: " ++ reason))

/-- Runs the build tool, which has to succeed. -/
def build (arguments : List String) : Running Unit :=
  (print ("+ cargo " ++ " ".intercalate arguments ++ "\n")).andThen fun _ =>
  (ask (.build arguments)).andThen requireBuilt

end Running

end Pacing.Tasks
