import Pacing.Schedule.Record

/-!
# Plans

When the next remediation of a scope may run.  A scope is hot while the time
since its last execution is within the window; a request for a hot scope is
put at the end of the window, and any other request runs now.  A clock behind
the last execution counts as hot, and a record past its expiry counts as
absent.
-/

namespace Pacing

/-- The planned time of a request at `now`, for what is stored about its
scope. -/
def plan (previous : Option ScheduleRecord) (threshold : UInt64) (now : Int64) : Int64 :=
  match previous with
  | none => now
  | some record =>
    if record.isExpired now then now
    else if Seconds.sub now record.lastExecutedAt ≤ Seconds.window threshold then
      Seconds.add record.lastExecutedAt (Seconds.window threshold)
    else now

@[simp] theorem plan_none (threshold : UInt64) (now : Int64) :
    plan none threshold now = now := rfl

theorem plan_of_expired {record : ScheduleRecord} {now : Int64}
    (expired : record.isExpired now = true) (threshold : UInt64) :
    plan (some record) threshold now = now := by
  simp only [plan, expired, if_true]

end Pacing
