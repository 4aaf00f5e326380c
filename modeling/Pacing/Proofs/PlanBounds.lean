import Mathlib.Order.Bounds.Defs
import Pacing.Proofs.Items
import Pacing.Proofs.Plan
import Pacing.Proofs.Retrying
import Pacing.Proofs.Site

/-!
# Bounds of plans

Behind a record that a plan has left, the next plan is the earliest time that is
neither in the past nor within the window.  A store can also deliver records whose
expiry has nothing to do with their time.  Such a record holds a plan back only
until it expires, and then the plan is the clock, even if that is before the time of
the record.
-/

namespace Pacing

theorem Seconds.max_eq_ite (left right : Int64) :
    max left right = if left ≤ right then right else left := rfl

/-! ## Records of earlier plans -/

/-- A time that is neither in the past nor within the window behind an execution. -/
def Permissible (last : Int64) (threshold : UInt64) (now time : Int64) : Prop :=
  now ≤ time ∧ Seconds.windowEnd last threshold ≤ time.toInt

theorem permissible_iff (last : Int64) (threshold : UInt64) (now time : Int64) :
    Permissible last threshold now time ↔
      now ≤ time ∧ Seconds.add last (Seconds.window threshold) ≤ time := by
  rw [Permissible, ← Seconds.toInt_add_window_eq_windowEnd, ← Int64.le_iff_toInt_le]

theorem isLeast_max_permissible (last : Int64) (threshold : UInt64) (now : Int64) :
    IsLeast {time | Permissible last threshold now time}
      (max now (Seconds.add last (Seconds.window threshold))) := by
  simp only [permissible_iff]
  rw [Seconds.max_eq_ite]
  split
  · next notAfter =>
      exact ⟨⟨notAfter, Int64.le_refl _⟩, fun time permissible => permissible.2⟩
  · next after =>
      have passed : Seconds.add last (Seconds.window threshold) ≤ now :=
        Int64.le_of_lt (Int64.not_le.mp after)
      exact ⟨⟨Int64.le_refl _, passed⟩, fun time permissible => permissible.1⟩

theorem plan_planned (scope : ScopeKey) (last : Int64) (threshold : UInt64) (now : Int64) :
    plan (some (.planned scope last threshold)) threshold now =
      max now (Seconds.add last (Seconds.window threshold)) := by
  have isEnd := Seconds.toInt_add_window last threshold
  have clockFits := now.toInt_lt
  have expiry : (ScheduleRecord.planned scope last threshold).expiresAt =
      Seconds.add last (Seconds.window threshold) := rfl
  rcases plan_cases expiry threshold now with ⟨same, notAfter⟩ | ⟨same, after⟩
  · rw [ScheduleRecord.planned_lastExecutedAt] at same notAfter
    rw [same, Seconds.max_eq_ite, if_pos]
    rw [Int64.le_iff_toInt_le]
    omega
  · rw [ScheduleRecord.planned_lastExecutedAt] at after
    rw [same, Seconds.max_eq_ite, if_neg]
    rw [Int64.le_iff_toInt_le]
    omega

/-- Behind a record that was written under the same threshold, a plan is the greater one
of the clock and the end of the window, which is the earliest time that is permissible.
Behind a record that was written under another threshold it is one of the two, and it
is neither in the past, nor before the record, nor within the smaller window. -/
theorem plan_closed_form (scope : ScopeKey) (last now : Int64) (threshold written : UInt64) :
    let own := plan (some (.planned scope last threshold)) threshold now
    let other := plan (some (.planned scope last written)) threshold now
    let closing := Seconds.add last (Seconds.window threshold)
    closing.toInt =
      min (last.toInt + min threshold.toNat 0x7FFFFFFFFFFFFFFF) 0x7FFFFFFFFFFFFFFF ∧
    own = max now closing ∧
    IsLeast {time | Permissible last threshold now time} own ∧
    now ≤ other ∧ last ≤ other ∧
    Seconds.windowEnd last (min written threshold) ≤ other.toInt ∧
    (other = now ∨ other = closing) := by
  intro own other closing
  have closed : own = max now closing := plan_planned scope last threshold now
  have expiry : (ScheduleRecord.planned scope last written).expiresAt =
      Seconds.add last (Seconds.window written) := rfl
  have isPlanned := ScheduleRecord.isPlanned_planned scope last written
  have notPast : now ≤ other := by
    apply now_le_plan
    intro record same
    exact Option.some.inj same ▸ isPlanned
  have either : other = now ∨ other = closing := by
    rcases plan_cases expiry threshold now with ⟨isEnd, -⟩ | ⟨isNow, -⟩
    · exact .inr isEnd
    · exact .inl isNow
  refine ⟨Seconds.toInt_add_window_eq_windowEnd last threshold, closed, ?_, notPast,
    ?_, ?_, either⟩
  · rw [closed]
    exact isLeast_max_permissible last threshold now
  · exact last_le_plan isPlanned threshold now
  · exact windowEnd_le_plan expiry threshold now

/-! ## Records of any kind -/

/-- A plan behind any record: the clock if the record has expired, else the end of the
window as long as the saturated distance is within it, and then the clock again. -/
theorem plan_some_cases (record : ScheduleRecord) (threshold : UInt64) (now : Int64) :
    (record.isExpired now = true ∧ plan (some record) threshold now = now) ∨
    (record.isExpired now = false ∧
      Seconds.sub now record.lastExecutedAt ≤ Seconds.window threshold ∧
      plan (some record) threshold now =
        Seconds.add record.lastExecutedAt (Seconds.window threshold)) ∨
    (record.isExpired now = false ∧
      Seconds.window threshold < Seconds.sub now record.lastExecutedAt ∧
      plan (some record) threshold now = now) := by
  cases expired : record.isExpired now with
  | true => exact .inl ⟨rfl, plan_of_expired expired threshold⟩
  | false =>
      by_cases hot : Seconds.sub now record.lastExecutedAt ≤ Seconds.window threshold
      · exact .inr (.inl ⟨rfl, hot, by simp [plan, expired, hot]⟩)
      · exact .inr (.inr ⟨rfl, Int64.not_le.mp hot, by simp [plan, expired, hot]⟩)

/-- The distance from a record to the clock can be compared with a window: it fits the
word, or the window is not the longest. -/
def Comparable (record : ScheduleRecord) (threshold : UInt64) (now : Int64) : Prop :=
  now.toInt - record.lastExecutedAt.toInt ≤ 0x7FFFFFFFFFFFFFFF ∨
    threshold.toNat < 0x7FFFFFFFFFFFFFFF

/-- A planned time does not go back behind a record: not before its time unless it has
expired, and then it is the clock; and not before the clock. -/
structure Onward (record : ScheduleRecord) (threshold : UInt64) (now plannedAt : Int64) :
    Prop where
  notBack : record.isExpired now = false → record.lastExecutedAt ≤ plannedAt
  forgotten : record.isExpired now = true → plannedAt = now
  notPast : Comparable record threshold now → now ≤ plannedAt

theorem onward_plan (record : ScheduleRecord) (threshold : UInt64) (now : Int64) :
    Onward record threshold now (plan (some record) threshold now) := by
  have distance := Seconds.toInt_sub now record.lastExecutedAt
  have isEnd := Seconds.toInt_add_window record.lastExecutedAt threshold
  have nonneg := Seconds.window_nonneg threshold
  have window := Seconds.toInt_window threshold
  have lastFits := record.lastExecutedAt.toInt_lt
  have clockFits := now.toInt_lt
  rcases plan_some_cases record threshold now with
    ⟨expired, isNow⟩ | ⟨live, hot, atEnd⟩ | ⟨live, cold, isNow⟩
  · rw [isNow]
    constructor
    · intro live
      rw [expired] at live
      cases live
    · exact fun _ => rfl
    · exact fun _ => Int64.le_refl now
  · have within := Int64.le_iff_toInt_le.mp hot
    rw [atEnd]
    constructor
    · intro _
      rw [Int64.le_iff_toInt_le]
      omega
    · intro expired
      rw [live] at expired
      cases expired
    · intro comparable
      rw [Int64.le_iff_toInt_le]
      unfold Comparable at comparable
      omega
  · have beyond := Int64.lt_iff_toInt_lt.mp cold
    rw [isNow]
    constructor
    · intro _
      rw [Int64.le_iff_toInt_le]
      omega
    · exact fun _ => rfl
    · exact fun _ => Int64.le_refl now

section Attempts

open Handling

variable {State : Type} (respond : (query : Query) → State → query.Reply × State)
  (state : State) (key : ScopeKey) (threshold : UInt64) (now : Int64)

/-- The update that an attempt asks for, of what it has read. -/
theorem update_of_attempt {own : ScopeKey} {expected : Int64} {next : ScheduleRecord}
    {reply : Except StoreError Unit}
    (asked : .exchange (.update own expected next) reply ∈
      ((attempt key threshold now).run respond state).transcript) :
    ∃ record : ScheduleRecord,
      .exchange (.read key) (.ok (some record)) ∈
        ((attempt key threshold now).run respond state).transcript ∧
      own = key ∧ expected = record.lastExecutedAt ∧
      next = .planned key (plan (some record) threshold now) threshold := by
  have yields := Dialogue.yields_run respond (attempt key threshold now) state
  have called : .exchange (.update own expected next) reply ∈
      calls ((attempt key threshold now).run respond state).transcript :=
    List.mem_filter.mpr ⟨asked, rfl⟩
  rcases Retrying.attempt_yields yields with ⟨error, unread, -⟩ |
    ⟨previous, written, read, -⟩
  · rw [unread] at called
    cases called with
    | tail _ none => cases none
  · rw [read] at called
    have reading : .exchange (.read key) (.ok previous) ∈
        calls ((attempt key threshold now).run respond state).transcript :=
      read ▸ List.mem_cons_self
    cases previous with
    | none => simp [Retrying.writeCall] at called
    | some record =>
        obtain ⟨⟨rfl, rfl, rfl⟩, -⟩ := by simpa [Retrying.writeCall] using called
        exact ⟨record, (List.mem_filter.mp reading).1, rfl, rfl, rfl⟩

/-- Whatever record a store delivers, a plan does not go back behind it: it is not
before the time of the record unless the record has expired, and it is not in the past
where the distance to the record can be compared with the window.  So an update that is
granted lowers the time of nothing but an expired record. -/
theorem plan_onward :
    (∀ record : ScheduleRecord,
      Onward record threshold now (plan (some record) threshold now)) ∧
    ∀ own expected next reply,
      .exchange (.update own expected next) reply ∈
        ((attempt key threshold now).run respond state).transcript →
      ∃ record : ScheduleRecord,
        .exchange (.read key) (.ok (some record)) ∈
          ((attempt key threshold now).run respond state).transcript ∧
        own = key ∧ expected = record.lastExecutedAt ∧
        Onward record threshold now next.lastExecutedAt := by
  constructor
  · exact fun record => onward_plan record threshold now
  · intro own expected next reply asked
    obtain ⟨record, read, isKey, isTime, isNext⟩ :=
      update_of_attempt respond state key threshold now asked
    refine ⟨record, read, isKey, isTime, ?_⟩
    rw [isNext]
    exact onward_plan record threshold now

end Attempts

/-- A record that outlives its window by far, replaced by an attempt whose clock is
behind it. -/
theorem plan_onward_behind_clock :
    let key : ScopeKey := ⟨"111111111111-us-east-1"⟩
    let record : ScheduleRecord := ⟨key, 5000, 9000⟩
    let next : ScheduleRecord := .planned key (plan (some record) 60 1000) 60
    let site : Site Unit := ⟨Store.empty.put key record, ()⟩
    let transcript := ((Handling.attempt key 60 1000).run
      (Surroundings.steady 1000).respond site).transcript
    next.lastExecutedAt = 5060 ∧
    .exchange (.update key 5000 next) (.ok ()) ∈ transcript ∧
      ∃ read : ScheduleRecord,
        .exchange (.read key) (.ok (some read)) ∈ transcript ∧
        5000 = read.lastExecutedAt ∧ Onward read 60 1000 next.lastExecutedAt := by
  intro key record next site transcript
  have asked : .exchange (.update key 5000 next) (.ok ()) ∈ transcript :=
    .tail _ (.head _)
  obtain ⟨read, isRead, -, isTime, onward⟩ :=
    (plan_onward (Surroundings.steady 1000).respond site key 60 1000).2 _ _ _ _ asked
  exact ⟨by decide, asked, read, isRead, isTime, onward⟩

/-- An item can hold a record that has expired before its own time, and behind it a
plan goes back. -/
theorem plan_before_expired_record :
    ¬ ∀ (item : Remote.Item) (record : ScheduleRecord) (threshold : UInt64) (now : Int64),
      item.toRecord = .ok record →
        record.lastExecutedAt ≤ plan (some record) threshold now ∧
          now ≤ plan (some record) threshold now := by
  intro onward
  let record : ScheduleRecord := ⟨⟨"111111111111-us-east-1"⟩, 2000, 500⟩
  have stored := Remote.Item.toRecord_ofRecord record
  exact absurd (onward _ record 60 1000 stored).1 (by decide)

end Pacing
