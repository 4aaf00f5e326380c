import Pacing.Handling.Attempt

/-!
# The parts of an attempt

An attempt is a read, then a write that depends on what was read, then a note.
The later two parts have names here, since other parties may move before each
of them.
-/

namespace Pacing

/-- The errors by which a write has lost to another writer. -/
inductive StoreError.Conflict : StoreError → Prop where
  | taken (scope : String) : Conflict (.alreadyExists scope)
  | changed (scope : String) : Conflict (.conditionFailed scope)

theorem StoreError.conflict_iff (error : StoreError) :
    error.Conflict ↔ error.isWriteConflict = true := by
  constructor
  · intro conflict
    cases conflict <;> rfl
  · intro conflict
    cases error with
    | alreadyExists scope => exact .taken scope
    | conditionFailed scope => exact .changed scope
    | unavailable reason => cases conflict
    | invalidRecord reason => cases conflict

namespace Handling

theorem outcomeOf_conflict {error : StoreError} (conflict : error.Conflict) :
    outcomeOf (.error error) = .ok .conflict :=
  if_pos (error.conflict_iff.mp conflict)

theorem outcomeOf_other {error : StoreError} (other : ¬ error.Conflict) :
    outcomeOf (.error error) = .error (.ofStore error) :=
  if_neg fun conflict => other (error.conflict_iff.mpr conflict)

/-- What is left of an attempt whose write has been answered. -/
def conclude (key : ScopeKey) (now plannedAt : Int64)
    (previous : Option ScheduleRecord) (written : Except StoreError Unit) :
    Handling (Except SchedulerError Decision) :=
  let last := previous.map ScheduleRecord.lastExecutedAt
  match outcomeOf written with
  | .error error => .done (.error error)
  | .ok outcome =>
    Dialogue.tell (.attemptFinished key now plannedAt last outcome)
      (.done (.ok { plannedAt, outcome, previous := last }))

/-- What is left of an attempt that has read what is stored. -/
def proceed (key : ScopeKey) (threshold : UInt64) (now : Int64)
    (previous : Option ScheduleRecord) : Handling (Except SchedulerError Decision) :=
  let plannedAt := plan previous threshold now
  (write key previous (ScheduleRecord.planned key plannedAt threshold)).bind
    (conclude key now plannedAt previous)

/-- What is left of an attempt whose read has been answered. -/
def proceedFrom (key : ScopeKey) (threshold : UInt64) (now : Int64) :
    Except StoreError (Option ScheduleRecord) →
      Handling (Except SchedulerError Decision)
  | .error error => .done (.error (.ofStore error))
  | .ok previous => proceed key threshold now previous

theorem attempt_eq (key : ScopeKey) (threshold : UInt64) (now : Int64) :
    attempt key threshold now =
      Dialogue.ask (.read key) (proceedFrom key threshold now) := by
  refine congrArg (Dialogue.ask _) (funext fun answer => ?_)
  cases answer with
  | error error => rfl
  | ok previous =>
      show (write key previous _).bind _ = (write key previous _).bind _
      refine congrArg (Dialogue.bind _) (funext fun written => ?_)
      unfold conclude
      cases outcomeOf written <;> rfl

theorem proceed_none (key : ScopeKey) (threshold : UInt64) (now : Int64) :
    proceed key threshold now none =
      Dialogue.ask (.create (ScheduleRecord.planned key now threshold))
        (conclude key now now none) := rfl

theorem proceed_some (key : ScopeKey) (threshold : UInt64) (now : Int64)
    (record : ScheduleRecord) :
    proceed key threshold now (some record) =
      Dialogue.ask (.update key record.lastExecutedAt
          (ScheduleRecord.planned key (plan (some record) threshold now) threshold))
        (conclude key now (plan (some record) threshold now) (some record)) := rfl

end Handling

end Pacing
