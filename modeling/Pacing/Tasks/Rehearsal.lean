import Pacing.Tasks.Program

/-!
# Rehearsals of the task runner

Surroundings of the task runner that are given beforehand: how each run of the
build tool ends, what is known about the installed targets, and the files that
are there.  Further runs of the build tool succeed.
-/

namespace Pacing.Tasks

structure Rehearsal where
  builds : List BuildOutcome
  targets : TargetList
  files : List (String × ByteArray)
  /-- The archives that were written, each under its path. -/
  archives : List (String × List ArchiveEntry)

namespace Rehearsal

def respond (query : Query) (rehearsal : Rehearsal) : query.Reply × Rehearsal :=
  match query with
  | .build _ =>
    (rehearsal.builds.headD (.exited 0), { rehearsal with builds := rehearsal.builds.tail })
  | .listTargets => (rehearsal.targets, rehearsal)
  | .readFile path => (rehearsal.files.lookup path, rehearsal)
  | .writeArchive path entries =>
    ((), { rehearsal with archives := (path, entries) :: rehearsal.archives })

end Rehearsal

end Pacing.Tasks
