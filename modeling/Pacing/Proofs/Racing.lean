import Pacing.Proofs.Attempt
import Pacing.Proofs.Interleaving
import Pacing.Proofs.Site
import Pacing.Proofs.Transcript

/-!
# Races

Attempts at one scope run side by side over a store in memory that is empty at
first and reaped now and then.  Each attempt has a clock and a threshold of its
own, and between its read and its write any other attempt may move.
-/

namespace Pacing.Racing

/-- An attempt at a scope. -/
structure Attempt where
  threshold : UInt64
  /-- What the clock of the attempt shows. -/
  now : Int64
  deriving DecidableEq, Repr

/-- Attempts in the midst of their moves; the store may be reaped at a time. -/
abbrev Race (World : Type) :=
  Interleaving Query Query.Reply Note (Except SchedulerError Decision) Int64 (Site World)

variable {World : Type} (surroundings : Surroundings World) (key : ScopeKey)

/-- The attempts at a scope before the first move. -/
def starting (world : World) (attempts : List Attempt) : Race World :=
  .starting
    (attempts.map fun attempt => Handling.attempt key attempt.threshold attempt.now)
    ⟨Store.empty, world⟩

/-- Attempts at a scope that make the given moves, with a store that is empty
at first. -/
def race (world : World) (attempts : List Attempt) (moves : List (Move Int64)) :
    Race World :=
  (starting key world attempts).run (fun _ => surroundings.respond) Site.reap moves

abbrev History := List (Occurrence Query Query.Reply Note Int64)

/-- A committed time. -/
structure Commit where
  attempt : Attempt
  plannedAt : Int64
  deriving DecidableEq, Repr

/-- The record that a commit has filed. -/
def Commit.record (key : ScopeKey) (commit : Commit) : ScheduleRecord :=
  ScheduleRecord.planned key commit.plannedAt commit.attempt.threshold

/-- The commit that an occurrence is, if it is one: an acknowledged write. -/
def commit? (attempts : List Attempt) :
    Occurrence Query Query.Reply Note Int64 → Option Commit
  | .event index event =>
    (attempts[index]?).bind fun attempt =>
      (Handling.written? event).map fun record => ⟨attempt, record.lastExecutedAt⟩
  | .outside _ => none

/-- The commits of a history, in their order. -/
def commits (attempts : List Attempt) (history : History) : List Commit :=
  history.filterMap (commit? attempts)

theorem commit?_event {attempts : List Attempt} {index : Nat} {attempt : Attempt}
    (isAttempt : attempts[index]? = some attempt) (event : Handling.Event) :
    commit? attempts (.event index event) =
      (Handling.written? event).map fun record => ⟨attempt, record.lastExecutedAt⟩ := by
  rw [commit?, isAttempt, Option.bind_some]

theorem commits_append (attempts : List Attempt) (earlier later : History) :
    commits attempts (earlier ++ later) =
      commits attempts earlier ++ commits attempts later :=
  List.filterMap_append

end Pacing.Racing
