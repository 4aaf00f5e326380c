import Pacing.Tasks.CommandLine
import Pacing.Tasks.Program

/-!
# The task runner at a terminal

The command line of the task runner.  What the runner tells goes to standard
error.  A tool is not started here: it is asked for on standard output, and
the next line of standard input is what came of it.  Files are read where they
are, and an archive is shown as the list of its entries.
-/

namespace Pacing.Tasks.Terminal

/-- The next line of standard input, without blanks at its ends. -/
def readLine : IO String := do
  return Text.trim (← (← IO.getStdin).getLine)

/-- The list of targets that a line stands for: the targets, one after the
other, or nothing if they are not known. -/
def targetListOf (line : String) : TargetList :=
  if line.isEmpty then .notStarted "no answer"
  else .finished true (line.map fun character => if character = ' ' then '\n' else character) ""

/-- The outcome of a run of the build tool that a line stands for: its exit
status, or a run that was killed where the line holds no status. -/
def buildOutcomeOf (line : String) : BuildOutcome :=
  match line.toNat? with
  | some status => .exited status
  | none => .killed

def describe (entry : ArchiveEntry) : String :=
  entry.name ++ " " ++ toString entry.mode ++ " " ++ toString entry.content.size

/-- What the terminal replies to a query. -/
def reply : (query : Query) → IO query.Reply
  | .build arguments => do
    IO.println ("exit status of: cargo " ++ " ".intercalate arguments)
    return buildOutcomeOf (← readLine)
  | .listTargets => do
    IO.println "installed targets:"
    return targetListOf (← readLine)
  | .readFile path => do
    return (← (IO.FS.readBinFile path).toBaseIO).toOption
  | .writeArchive path entries => do
    IO.println path
    entries.forM fun entry => IO.println (describe entry)

/-- Does the work at the terminal. -/
def converse : Running Unit → IO (Except Failure Unit)
  | Dialogue.done result => return result
  | Dialogue.ask query next => do converse (next (← reply query))
  | Dialogue.tell note next => do
    IO.eprint note
    converse next

def report (result : Except Failure Unit) : IO Unit :=
  match result with
  | .error (.unmet message) => IO.eprintln message
  | _ => return ()

end Pacing.Tasks.Terminal

/-- Carries out a command line, and ends with the exit status of its work. -/
def main (arguments : List String) : IO UInt32 := do
  match Pacing.Tasks.Command.read arguments with
  | .error error =>
    IO.eprintln error.name
    return UInt32.ofNat error.status
  | .ok command =>
    let result ← Pacing.Tasks.Terminal.converse command.run
    Pacing.Tasks.Terminal.report result
    return UInt32.ofNat (Pacing.Tasks.exitStatus result)
