import Mathlib.Data.List.Range
import Mathlib.Data.Set.List
import Pacing.Proofs.Contention
import Pacing.Proofs.Plan

/-!
# Queues for a scope

Commits under one threshold, while the clock stands, for a scope that has no
record: they queue up.  The times that are granted are the ends of windows that
follow each other without a gap, in the order of the grants, and which commit is
granted which of them is decided by the order of the moves alone.

The reason is that every grant is planned behind the grant before it.  What a
commit has read may be older, but then its write is lost, unless the times agree;
and the plan depends on nothing but the time, as long as the clock is not past it.
-/

namespace Pacing.Queueing

open Handling Chronicle Contention
open Racing (History)
open ScheduleRecord (time?)

variable {World : Type}

/-- The times one window apart, from the present on, as far as the word reaches. -/
def slotAt (now : Int64) (threshold : UInt64) (place : Nat) : Int64 :=
  Seconds.clamp (now.toInt + place * (Seconds.window threshold).toInt)

def slotRecord (key : ScopeKey) (now : Int64) (threshold : UInt64) (place : Nat) :
    ScheduleRecord :=
  ScheduleRecord.planned key (slotAt now threshold place) threshold

section Slots

variable (now : Int64) (threshold : UInt64)

theorem toInt_slotAt (place : Nat) :
    (slotAt now threshold place).toInt =
      min (now.toInt + place * (Seconds.window threshold).toInt) 0x7FFFFFFFFFFFFFFF := by
  have least := now.le_toInt
  have ahead : 0 ≤ place * (Seconds.window threshold).toInt :=
    Int.mul_nonneg (Int.natCast_nonneg place) (Seconds.window_nonneg threshold)
  rw [slotAt, Seconds.toInt_clamp]
  omega

theorem slotAt_zero : slotAt now threshold 0 = now := by
  apply Int64.toInt.inj
  have fits := now.toInt_lt
  rw [toInt_slotAt]
  simp
  omega

theorem slotAt_succ (place : Nat) :
    slotAt now threshold (place + 1) =
      Seconds.add (slotAt now threshold place) (Seconds.window threshold) := by
  apply Int64.toInt.inj
  have nonneg := Seconds.window_nonneg threshold
  rw [Seconds.toInt_add_window, toInt_slotAt, toInt_slotAt, Int.natCast_succ, Int.add_mul]
  omega

theorem now_le_slotAt (place : Nat) :
    now.toInt ≤ (slotAt now threshold place).toInt := by
  have fits := now.toInt_lt
  have ahead : 0 ≤ place * (Seconds.window threshold).toInt :=
    Int.mul_nonneg (Int.natCast_nonneg place) (Seconds.window_nonneg threshold)
  rw [toInt_slotAt]
  omega

theorem slotAt_injective {now : Int64} {threshold : UInt64} (apart : threshold ≠ 0)
    {place other : Nat}
    (fits : now.toInt + place * (Seconds.window threshold).toInt ≤ 0x7FFFFFFFFFFFFFFF)
    (otherFits : now.toInt + other * (Seconds.window threshold).toInt ≤
      0x7FFFFFFFFFFFFFFF)
    (same : slotAt now threshold place = slotAt now threshold other) :
    place = other := by
  have positive : (Seconds.window threshold).toInt ≠ 0 := by
    have nonzero : threshold.toNat ≠ 0 := fun zero => apart (UInt64.toNat.inj zero)
    rw [Seconds.toInt_window]
    omega
  have times := congrArg Int64.toInt same
  rw [toInt_slotAt, toInt_slotAt] at times
  have lengths : place * (Seconds.window threshold).toInt =
      other * (Seconds.window threshold).toInt := by
    omega
  exact Int.ofNat.inj (Int.eq_of_mul_eq_mul_right positive lengths)

/-- While the clock stands, the plan behind a slot is the next slot. -/
theorem plan_slotRecord (key : ScopeKey) (place : Nat) :
    plan (some (slotRecord key now threshold place)) threshold now =
      slotAt now threshold (place + 1) := by
  have behind := now_le_slotAt now threshold place
  have nonneg := Seconds.window_nonneg threshold
  have expiry : (slotRecord key now threshold place).expiresAt =
      Seconds.add (slotAt now threshold place) (Seconds.window threshold) := rfl
  rcases plan_cases expiry threshold now with ⟨isEnd, -⟩ | ⟨-, past⟩
  · rw [isEnd, slotAt_succ]
    rfl
  · have past : (slotAt now threshold place).toInt +
        min (Seconds.window threshold).toInt (Seconds.window threshold).toInt <
          now.toInt := past
    omega

end Slots

/-! ## The grants of a queue -/

section Grants

variable {key : ScopeKey} {Plans : Nat → UInt64 → Int64 → Prop} {history : History}
  {now : Int64} {threshold : UInt64}

theorem stored_of_queued {others : Nat}
    (queued : (grants history).map Grant.record =
      (List.range (grants history).length).map (slotRecord key now threshold))
    (count : (grants history).length = others + 1) :
    stored none history = some (slotRecord key now threshold others) := by
  rw [stored, Option.or_none, ← List.getLast?_map, queued, count, List.range_succ,
    List.map_append, List.map_singleton, List.getLast?_concat]

theorem plan_of_queued {previous : Option ScheduleRecord}
    (queued : (grants history).map Grant.record =
      (List.range (grants history).length).map (slotRecord key now threshold))
    (known : ∀ record, previous = some record →
      record ∈ (grants history).map Grant.record)
    (unchanged : time? (stored none history) = time? previous) :
    plan previous threshold now = slotAt now threshold (grants history).length := by
  cases previous with
  | none =>
      have nothing : stored none history = none := Option.map_eq_none_iff.mp unchanged
      have empty : grants history = [] := by
        simpa [stored] using nothing
      rw [empty, plan_none, List.length_nil, slotAt_zero]
  | some record =>
      have member := known record rfl
      rw [queued, List.mem_map] at member
      obtain ⟨place, isGranted, rfl⟩ := member
      cases count : (grants history).length with
      | zero =>
          rw [count] at isGranted
          cases isGranted
      | succ others =>
          -- Only the times agree, but a slot is all that the plan depends on.
          rw [stored_of_queued queued count] at unchanged
          have same : slotAt now threshold others = slotAt now threshold place :=
            Option.some.inj unchanged
          rw [plan_slotRecord, slotAt_succ, slotAt_succ, same]

/-- Under one threshold and while the clock stands, a lawful history of a scope
that had no record grants the slots in their order. -/
theorem grants_queued (lawful : Lawful key none Plans history)
    (uniform : ∀ party threshold' now', Plans party threshold' now' →
      threshold' = threshold ∧ now' = now) :
    (grants history).map Grant.record =
      (List.range (grants history).length).map (slotRecord key now threshold) := by
  refine lawful.grants_induction (motive := fun given => given.map Grant.record =
    (List.range given.length).map (slotRecord key now threshold)) rfl ?_
  intro earlier grant previous _ _ _ entitled queued
  obtain ⟨rfl, rfl⟩ := uniform _ _ _ entitled.plans
  have known : ∀ record, previous = some record →
      record ∈ (grants earlier).map Grant.record := by
    obtain ⟨before, behind, rfl, isStored, -⟩ := entitled.holds
    intro record isRead
    rw [grants_append, List.map_append]
    apply List.mem_append_left
    exact stored_mem_grants (isStored.symm.trans isRead)
  have next := plan_of_queued queued known entitled.unchanged
  rw [List.map_append, queued, List.length_append, List.map_singleton,
    List.length_singleton, List.range_succ, List.map_append, List.map_singleton,
    entitled.isRecord, next]
  rfl

end Grants

/-! ## The slots of commits -/

/-- Where everybody was granted a time and nobody twice, the times are those of the
grants, in some order. -/
theorem slots_perm {slots : List Slot} {grants : List Grant}
    (own : ∀ party slot, slots[party]? = some slot →
      ∃ grant ∈ grants, grant.party = party ∧ grant.plannedAt = slot.plannedAt)
    (few : grants.length ≤ slots.length) :
    (slots.map Slot.plannedAt).Perm (grants.map Grant.plannedAt) := by
  let claimed := slots.zipIdx.map fun entry => (entry.2, entry.1.plannedAt)
  let given := grants.map fun grant => (grant.party, grant.plannedAt)
  have distinct : claimed.Nodup := by
    apply List.Nodup.of_map Prod.fst
    rw [List.map_map]
    show (slots.zipIdx.map Prod.snd).Nodup
    rw [List.zipIdx_map_snd]
    exact List.nodup_range'
  have within : claimed ⊆ given := by
    intro entry member
    obtain ⟨⟨slot, party⟩, numbered, rfl⟩ := List.mem_map.mp member
    obtain ⟨grant, granted, isParty, time⟩ :=
      own party slot (List.mem_zipIdx_iff_getElem?.mp numbered)
    refine List.mem_map.mpr ⟨grant, granted, ?_⟩
    rw [isParty, time]
  have all : claimed.Perm given := by
    apply (List.subperm_of_subset distinct within).perm_of_length_le
    simpa [claimed, given] using few
  have times := all.map Prod.snd
  rw [List.map_map, List.map_map] at times
  have listed : slots.zipIdx.map (Prod.snd ∘ fun entry => (entry.2, entry.1.plannedAt)) =
      slots.map Slot.plannedAt := by
    rw [← List.zipIdx_map_fst 0 slots, List.map_map, List.zipIdx_map_fst]
    rfl
  rw [listed] at times
  exact times

theorem exists_slots {Shows : Int64 → Prop} {key : ScopeKey}
    {initial : Option ScheduleRecord} {runs : List Terms}
    {contested : Interleaving Query Query.Reply Note (Except SchedulerError Slot) Int64
      (Site World)}
    (proper : Proper key initial (Plans Shows runs) (Stage Shows key initial runs) contested)
    (enough : ∀ terms ∈ runs, runs.length ≤ terms.retry.maxAttempts.toNat)
    (finished : ∀ party < runs.length, ∃ result, contested.result? party = some result) :
    ∃ slots : List Slot,
      (List.range runs.length).map contested.result? =
        slots.map (fun slot => some (.ok slot)) ∧
      slots.length = runs.length ∧
      ∀ party slot, slots[party]? = some slot →
        ∃ grant ∈ grants contested.history,
          grant.party = party ∧ grant.plannedAt = slot.plannedAt := by
  have settles : (List.range runs.length).map contested.result? ∈
      Set.range (List.map fun slot : Slot => some (Except.ok slot)) := by
    rw [Set.range_list_map]
    intro result? member
    obtain ⟨party, isParty, rfl⟩ := List.mem_map.mp member
    obtain ⟨result, isResult⟩ := finished party (List.mem_range.mp isParty)
    obtain ⟨slot, rfl, -⟩ := settled_ok_of_result proper enough isResult
    exact ⟨slot, isResult.symm⟩
  obtain ⟨slots, results⟩ := settles
  have count : slots.length = runs.length := by
    simpa using congrArg List.length results
  refine ⟨slots, results.symm, count, ?_⟩
  intro party slot isSlot
  obtain ⟨inside, rfl⟩ := List.getElem?_eq_some_iff.mp isSlot
  have isResult : contested.result? party = some (.ok slots[party]) := by
    have found := congrArg (·[party]?) results
    simpa [← count, inside] using found.symm
  obtain ⟨_, same, settled⟩ := settled_ok_of_result proper enough isResult
  cases same
  cases settled with
  | granted member own time lost => exact ⟨_, member, own, time⟩

theorem nodup_slotAt {now : Int64} {threshold : UInt64} (apart : threshold ≠ 0)
    {count : Nat}
    (fits : now.toInt + (count - 1 : Nat) * (Seconds.window threshold).toInt ≤
      0x7FFFFFFFFFFFFFFF) :
    ((List.range count).map (slotAt now threshold)).Nodup := by
  have within : ∀ place ∈ List.range count,
      now.toInt + place * (Seconds.window threshold).toInt ≤ 0x7FFFFFFFFFFFFFFF := by
    intro place member
    have few : (place : Int) ≤ (count - 1 : Nat) := by
      have bound := List.mem_range.mp member
      omega
    have shorter := Int.mul_le_mul_of_nonneg_right few (Seconds.window_nonneg threshold)
    omega
  apply List.Nodup.map_on ?_ List.nodup_range
  intro place member other otherMember same
  exact slotAt_injective apart (within place member) (within other otherMember) same

/-- Commits under one threshold, while the clock stands, for a scope without a
record are granted the slots from the present on, one window after the other.  Once all
of them are done, the slots that they report are as many as they are: none is
skipped, none is given out twice unless the window is empty or the word ends, and
the last one is what is stored. -/
theorem slots_consecutive (reply : Nat → (query : Query) → World → query.Reply × World)
    (key : ScopeKey) (site : Site World) (runs : List Terms) (order : List Nat)
    (now : Int64) (threshold : UInt64)
    (still : ∀ party world, (reply party .now world).1 = now)
    (fresh : site.store.get? key = none)
    (common : ∀ terms ∈ runs, terms.waitThreshold = threshold)
    (enough : ∀ terms ∈ runs, runs.length ≤ terms.retry.maxAttempts.toNat) :
    let outcome := contest reply key site runs order
    (∀ place, (slotAt now threshold place).toInt =
      min (now.toInt + place * min threshold.toNat 0x7FFFFFFFFFFFFFFF)
        0x7FFFFFFFFFFFFFFF) ∧
    (grants outcome.history).map Grant.plannedAt =
      (List.range (grants outcome.history).length).map (slotAt now threshold) ∧
    (grants outcome.history).length ≤ runs.length ∧
    (∀ party terms, runs[party]? = some terms →
      7 * terms.retry.maxAttempts.toNat ≤ order.count party →
        ∃ result, outcome.result? party = some result) ∧
    ((∀ party < runs.length, ∃ result, outcome.result? party = some result) →
      ∃ slots : List Slot,
        (List.range runs.length).map outcome.result? =
          slots.map (fun slot => some (.ok slot)) ∧
        (slots.map Slot.plannedAt).Perm
          ((List.range runs.length).map (slotAt now threshold)) ∧
        (threshold ≠ 0 →
          now.toInt + (runs.length - 1 : Nat) * min threshold.toNat 0x7FFFFFFFFFFFFFFF ≤
              Int64.maxValue.toInt →
            (slots.map Slot.plannedAt).Nodup) ∧
        (runs ≠ [] → time? (outcome.state.store.get? key) =
          some (slotAt now threshold (runs.length - 1)))) := by
  intro outcome
  have proper : Proper key (site.store.get? key) (Plans (· = now) runs)
      (Stage (· = now) key (site.store.get? key) runs) outcome :=
    proper_contest still site runs order
  have lawful := proper.lawful
  have shown := proper.shown
  rw [fresh] at lawful shown
  have uniform : ∀ party threshold' now', Plans (· = now) runs party threshold' now' →
      threshold' = threshold ∧ now' = now := by
    rintro party _ _ ⟨terms, isRun, rfl, isNow⟩
    exact ⟨common terms (List.mem_of_getElem? isRun), isNow⟩
  have queued := grants_queued lawful uniform
  have times : (grants outcome.history).map Grant.plannedAt =
      (List.range (grants outcome.history).length).map (slotAt now threshold) := by
    have lasts := congrArg (List.map ScheduleRecord.lastExecutedAt) queued
    rw [List.map_map, List.map_map] at lasts
    exact lasts
  have few : (grants outcome.history).length ≤ runs.length :=
    lawful.grants_length_le fun _ _ _ => Plans.isParty
  have isSlot (place : Nat) : (slotAt now threshold place).toInt =
      min (now.toInt + place * min threshold.toNat 0x7FFFFFFFFFFFFFFF)
        0x7FFFFFFFFFFFFFFF := by
    rw [toInt_slotAt, Seconds.toInt_window]
  refine ⟨isSlot, times, few, fun party terms => exists_result_of_moves reply key site, ?_⟩
  intro finished
  obtain ⟨slots, results, count, own⟩ := exists_slots proper enough finished
  have perm := slots_perm own (count ▸ few)
  have all : (grants outcome.history).length = runs.length := by
    simpa [count] using perm.length_eq.symm
  rw [times, all] at perm
  refine ⟨slots, results, perm, ?_, ?_⟩
  · intro apart fits
    rw [← Seconds.toInt_window] at fits
    exact perm.nodup_iff.mpr (nodup_slotAt apart fits)
  · intro some
    have last : (grants outcome.history).length = runs.length - 1 + 1 := by
      have positive := List.length_pos_iff.mpr some
      omega
    rw [shown, stored_of_queued queued last]
    rfl

/-- Three commits read the empty store one after the other.  The last to read is
the first to write, and the other two queue up behind it. -/
theorem three_commits_queued :
    let reply := fun _ : Nat => (Surroundings.steady 100).reply
    let key : ScopeKey := ⟨"account-region"⟩
    let site : Site Unit := ⟨Store.empty, ()⟩
    let runs : List Terms := List.replicate 3 ⟨60, .standard, false⟩
    let order := [0, 0, 1, 1, 2, 2, 2, 1, 0] ++ List.replicate 8 0 ++
      List.replicate 8 1 ++ List.replicate 2 2
    let outcome := contest reply key site runs order
    (∀ party world, (reply party .now world).1 = 100) ∧
      site.store.get? key = none ∧
      (∀ terms ∈ runs, terms.waitThreshold = 60) ∧
      (∀ terms ∈ runs, runs.length ≤ terms.retry.maxAttempts.toNat) ∧
      ∃ slots : List Slot,
        (List.range 3).map outcome.result? = slots.map (fun slot => some (.ok slot)) ∧
        (slots.map Slot.plannedAt).Perm [100, 160, 220] ∧
        slots = [⟨160, 2⟩, ⟨220, 2⟩, ⟨100, 1⟩] := by
  intro reply key site runs order outcome
  have still : ∀ party world, (reply party .now world).1 = 100 := fun _ _ => rfl
  have common : ∀ terms ∈ runs, terms.waitThreshold = 60 := by decide
  have enough : ∀ terms ∈ runs, runs.length ≤ terms.retry.maxAttempts.toNat := by decide
  have results : (List.range 3).map outcome.result? =
      [some (.ok ⟨160, 2⟩), some (.ok ⟨220, 2⟩), some (.ok ⟨100, 1⟩)] := by
    decide +kernel
  have finished : ∀ party < 3, ∃ result, outcome.result? party = some result := by
    intro party isParty
    obtain ⟨first, second, third⟩ : outcome.result? 0 = some (.ok ⟨160, 2⟩) ∧
        outcome.result? 1 = some (.ok ⟨220, 2⟩) ∧
        outcome.result? 2 = some (.ok ⟨100, 1⟩) := by
      simpa [List.range_succ] using results
    obtain rfl | rfl | rfl : party = 0 ∨ party = 1 ∨ party = 2 := by omega
    · exact ⟨_, first⟩
    · exact ⟨_, second⟩
    · exact ⟨_, third⟩
  obtain ⟨-, -, -, -, queue⟩ :=
    slots_consecutive reply key site runs order 100 60 still rfl common enough
  obtain ⟨slots, isResults, perm, -⟩ := queue finished
  refine ⟨still, rfl, common, enough, slots, isResults, perm, ?_⟩
  have same : slots.map (fun slot => some (Except.ok slot)) =
      [⟨160, 2⟩, ⟨220, 2⟩, ⟨100, 1⟩].map
        fun slot => (some (.ok slot) : Option (Except SchedulerError Slot)) :=
    isResults.symm.trans results
  exact List.map_injective_iff.mpr (fun _ _ equal => by cases equal; rfl) same

end Pacing.Queueing
