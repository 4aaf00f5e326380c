import Pacing.Schedule.Plan

/-!
# Plans behind planned records

What a plan can be when the stored record is one that an earlier plan left
behind, under the same threshold or under another one.  Such a record expires
exactly at the end of its own window.  A clock so far ahead that its distance
to the record does not fit the word is therefore past the expiry, and the
saturated difference never decides wrongly.
-/

namespace Pacing

namespace Seconds

theorem window_nonneg (threshold : UInt64) : 0 ≤ (window threshold).toInt := by
  rw [toInt_window]
  omega

theorem toNat_min (left right : UInt64) :
    (min left right).toNat = min left.toNat right.toNat := by
  show (if left ≤ right then left else right).toNat = _
  by_cases ordered : left ≤ right
  · have numbers := UInt64.le_iff_toNat_le.mp ordered
    rw [if_pos ordered]
    omega
  · have numbers := mt UInt64.le_iff_toNat_le.mpr ordered
    rw [if_neg ordered]
    omega

/-- The window of the smaller of two thresholds is the smaller window. -/
theorem toInt_window_min (left right : UInt64) :
    (window (min left right)).toInt =
      min (window left).toInt (window right).toInt := by
  rw [toInt_window, toInt_window, toInt_window, toNat_min]
  omega

/-- The end of a window.  A length is never negative, so only the upper end of
the word can be reached. -/
theorem toInt_add_window (time : Int64) (threshold : UInt64) :
    (add time (window threshold)).toInt =
      min (time.toInt + (window threshold).toInt) 0x7FFFFFFFFFFFFFFF := by
  have least := time.le_toInt
  have nonneg := window_nonneg threshold
  rw [toInt_add]
  omega

/-- The second at which a window ends, as an integer.  The length of the window and
its end both stop at the greatest number of the word. -/
def windowEnd (time : Int64) (threshold : UInt64) : Int :=
  min (time.toInt + min threshold.toNat 0x7FFFFFFFFFFFFFFF) 0x7FFFFFFFFFFFFFFF

theorem toInt_add_window_eq_windowEnd (time : Int64) (threshold : UInt64) :
    (add time (window threshold)).toInt = windowEnd time threshold := by
  rw [toInt_add_window, toInt_window, windowEnd]

/-- The window of the smaller threshold ends first. -/
theorem windowEnd_min (time : Int64) (left right : UInt64) :
    windowEnd time (min left right) =
      min (time.toInt + min (window left).toInt (window right).toInt)
        0x7FFFFFFFFFFFFFFF := by
  rw [← toInt_window_min, toInt_window, windowEnd]

end Seconds

namespace ScheduleRecord

/-- A record whose expiry is the end of a window behind its own time, as every
record is that was written for a plan. -/
def IsPlanned (record : ScheduleRecord) : Prop :=
  ∃ threshold : UInt64,
    record.expiresAt = Seconds.add record.lastExecutedAt (Seconds.window threshold)

theorem isPlanned_planned (scope : ScopeKey) (plannedAt : Int64)
    (threshold : UInt64) : (planned scope plannedAt threshold).IsPlanned :=
  ⟨threshold, rfl⟩

end ScheduleRecord

/-- A plan behind a record with a window of its own is either the end of the
window that now applies, and then the clock is not past that end, or the
clock, and then the clock is past the smaller one of the two windows. -/
theorem plan_cases {record : ScheduleRecord} {written : UInt64}
    (expiry : record.expiresAt =
      Seconds.add record.lastExecutedAt (Seconds.window written))
    (threshold : UInt64) (now : Int64) :
    (plan (some record) threshold now =
        Seconds.add record.lastExecutedAt (Seconds.window threshold) ∧
      now.toInt ≤ record.lastExecutedAt.toInt + (Seconds.window threshold).toInt) ∨
    (plan (some record) threshold now = now ∧
      record.lastExecutedAt.toInt +
        min (Seconds.window written).toInt (Seconds.window threshold).toInt <
          now.toInt) := by
  have expiresAt : record.expiresAt.toInt =
      min (record.lastExecutedAt.toInt + (Seconds.window written).toInt)
        0x7FFFFFFFFFFFFFFF := by
    rw [expiry, Seconds.toInt_add_window]
  have distance := Seconds.toInt_sub now record.lastExecutedAt
  have clockFits := now.toInt_lt
  have lastFits := record.lastExecutedAt.le_toInt
  have windowFits := (Seconds.window written).toInt_lt
  have nonneg := Seconds.window_nonneg threshold
  by_cases expired : record.isExpired now = true
  · right
    refine ⟨plan_of_expired expired threshold, ?_⟩
    have before : record.expiresAt.toInt < now.toInt :=
      Int64.lt_iff_toInt_lt.mp ((record.isExpired_eq_true now).mp expired)
    omega
  · have notAfter : now.toInt ≤ record.expiresAt.toInt := by
      have notBefore : ¬ record.expiresAt < now :=
        fun before => expired ((record.isExpired_eq_true now).mpr before)
      exact Int64.le_iff_toInt_le.mp (Int64.not_lt.mp notBefore)
    by_cases hot : Seconds.sub now record.lastExecutedAt ≤ Seconds.window threshold
    · left
      have within := Int64.le_iff_toInt_le.mp hot
      refine ⟨by simp only [plan, if_neg expired, if_pos hot], ?_⟩
      omega
    · right
      have beyond : ¬ (Seconds.sub now record.lastExecutedAt).toInt ≤
          (Seconds.window threshold).toInt := mt Int64.le_iff_toInt_le.mpr hot
      refine ⟨by simp only [plan, if_neg expired, if_neg hot], ?_⟩
      omega

/-- A plan is never in the past. -/
theorem now_le_plan {previous : Option ScheduleRecord}
    (planned : ∀ record, previous = some record → record.IsPlanned)
    (threshold : UInt64) (now : Int64) : now ≤ plan previous threshold now := by
  cases previous with
  | none => exact Int64.le_iff_toInt_le.mpr (Int.le_refl _)
  | some record =>
      obtain ⟨written, expiry⟩ := planned record rfl
      rcases plan_cases expiry threshold now with ⟨isEnd, notAfter⟩ | ⟨isNow, _⟩
      · have clockFits := now.toInt_lt
        rw [isEnd, Int64.le_iff_toInt_le, Seconds.toInt_add_window]
        omega
      · rw [isNow]
        exact Int64.le_iff_toInt_le.mpr (Int.le_refl _)

/-- A plan is behind the smaller window of the one under which the record was
written and the one that now applies. -/
theorem windowEnd_le_plan {record : ScheduleRecord} {written : UInt64}
    (expiry : record.expiresAt =
      Seconds.add record.lastExecutedAt (Seconds.window written))
    (threshold : UInt64) (now : Int64) :
    Seconds.windowEnd record.lastExecutedAt (min written threshold) ≤
      (plan (some record) threshold now).toInt := by
  rw [Seconds.windowEnd_min]
  rcases plan_cases expiry threshold now with ⟨isEnd, _⟩ | ⟨isNow, after⟩
  · rw [isEnd, Seconds.toInt_add_window]
    omega
  · rw [isNow]
    omega

/-- A plan never goes back behind a planned record. -/
theorem last_le_plan {record : ScheduleRecord} (planned : record.IsPlanned)
    (threshold : UInt64) (now : Int64) :
    record.lastExecutedAt ≤ plan (some record) threshold now := by
  obtain ⟨written, expiry⟩ := planned
  have spaced := windowEnd_le_plan expiry threshold now
  have lastFits := record.lastExecutedAt.toInt_lt
  rw [Seconds.windowEnd] at spaced
  rw [Int64.le_iff_toInt_le]
  omega

/-- A plan repeats the time of the record only where the window is empty or the
word ends. -/
theorem window_eq_zero_of_plan_eq_last {record : ScheduleRecord}
    (planned : record.IsPlanned) {threshold : UInt64} {now : Int64}
    (repeated : plan (some record) threshold now = record.lastExecutedAt) :
    (Seconds.window threshold).toInt = 0 ∨
      record.lastExecutedAt.toInt = 0x7FFFFFFFFFFFFFFF := by
  obtain ⟨written, expiry⟩ := planned
  have writtenNonneg := Seconds.window_nonneg written
  have nonneg := Seconds.window_nonneg threshold
  have lastFits := record.lastExecutedAt.toInt_lt
  rcases plan_cases expiry threshold now with ⟨isEnd, _⟩ | ⟨isNow, after⟩
  · have ends := Seconds.toInt_add_window record.lastExecutedAt threshold
    rw [← isEnd, repeated] at ends
    omega
  · rw [← isNow, repeated] at after
    omega

end Pacing
