import Pacing.Handling.Query
import Pacing.Schedule.Plan

/-!
# Attempts

One attempt at committing the next execution of a scope: a read, a plan and at
most one write.  The write is conditional on what was read, so of several
attempts that race from one record the others learn that they have lost.
-/

namespace Pacing

structure Decision where
  plannedAt : Int64
  outcome : AttemptOutcome
  /-- The time of the last execution that the attempt has read. -/
  previous : Option Int64
  deriving DecidableEq, Repr

namespace Handling

/-- Writes a record in the place of the one that was read.  An expired record
may still be there, so whatever was read is replaced and not created anew. -/
def write (key : ScopeKey) (previous : Option ScheduleRecord) (record : ScheduleRecord) :
    Handling (Except StoreError Unit) :=
  match previous with
  | none => ask (.create record)
  | some current => ask (.update key current.lastExecutedAt record)

/-- The outcome of a write.  A rejection because of another writer is a
conflict, and every other failure is an error. -/
def outcomeOf (written : Except StoreError Unit) : Except SchedulerError AttemptOutcome :=
  match written with
  | .ok () => .ok .committed
  | .error error =>
    if error.isWriteConflict then .ok .conflict else .error (.ofStore error)

/-- One attempt for a scope at a time. -/
def attempt (key : ScopeKey) (threshold : UInt64) (now : Int64) :
    Handling (Except SchedulerError Decision) := do
  match ← ask (.read key) with
  | .error error => return .error (.ofStore error)
  | .ok previous =>
    let plannedAt := plan previous threshold now
    let written ← write key previous (ScheduleRecord.planned key plannedAt threshold)
    match outcomeOf written with
    | .error error => return .error error
    | .ok outcome =>
      let last := previous.map ScheduleRecord.lastExecutedAt
      tell (.attemptFinished key now plannedAt last outcome)
      return .ok { plannedAt, outcome, previous := last }

end Handling

end Pacing
