import Pacing.Scope
import Pacing.Seconds

/-!
# Schedule records

What is stored for a scope: when its last remediation was planned, and until
when the record matters.
-/

namespace Pacing

structure ScheduleRecord where
  scope : ScopeKey
  /-- The planned time of the last committed execution. -/
  lastExecutedAt : Int64
  /-- The time after which the record may be reclaimed. -/
  expiresAt : Int64
  deriving DecidableEq, Repr

namespace ScheduleRecord

/-- The record of an execution planned in a scope: it is kept for the length
of the window. -/
def planned (scope : ScopeKey) (plannedAt : Int64) (threshold : UInt64) : ScheduleRecord :=
  { scope
    lastExecutedAt := plannedAt
    expiresAt := Seconds.add plannedAt (Seconds.window threshold) }

def isExpired (record : ScheduleRecord) (now : Int64) : Bool :=
  record.expiresAt < now

@[simp] theorem planned_scope (scope : ScopeKey) (plannedAt : Int64) (threshold : UInt64) :
    (planned scope plannedAt threshold).scope = scope := rfl

@[simp] theorem planned_lastExecutedAt (scope : ScopeKey) (plannedAt : Int64)
    (threshold : UInt64) :
    (planned scope plannedAt threshold).lastExecutedAt = plannedAt := rfl

@[simp] theorem planned_expiresAt (scope : ScopeKey) (plannedAt : Int64)
    (threshold : UInt64) :
    (planned scope plannedAt threshold).expiresAt =
      Seconds.add plannedAt (Seconds.window threshold) := rfl

@[simp] theorem isExpired_eq_true (record : ScheduleRecord) (now : Int64) :
    record.isExpired now = true ↔ record.expiresAt < now := by
  simp [isExpired]

end ScheduleRecord

end Pacing
