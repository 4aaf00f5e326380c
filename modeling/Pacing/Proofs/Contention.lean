import Pacing.Handling.Commit
import Pacing.Proofs.Conduct

/-!
# Contention for a scope

Commits for one scope run side by side over a store that nobody else writes and
that is not reaped.  A commit that has lost a write starts over, and only another
commit that was granted its own can have caused the loss.  So as many attempts
as there are commits are enough for each of them, however they get in each
other's way, and whatever their clocks show.
-/

namespace Pacing.Contention

open Handling Chronicle
open Racing (History)

variable {World : Type}

def contest (reply : Nat → (query : Query) → World → query.Reply × World)
    (key : ScopeKey) (site : Site World) (runs : List Terms) (order : List Nat) :
    Interleaving Query Query.Reply Note (Except SchedulerError Slot) Int64
      (Site World) :=
  (Interleaving.starting (runs.map fun terms => commit terms key) site).run
    (fun party => (Surroundings.faultless (reply party)).respond) Site.reap
    (order.map Move.party)

/-- The thresholds and times under which the commits may plan, where the clocks
show no other times than some. -/
def Plans (Shows : Int64 → Prop) (runs : List Terms) (party : Nat)
    (threshold : UInt64) (now : Int64) : Prop :=
  ∃ terms, runs[party]? = some terms ∧ terms.waitThreshold = threshold ∧ Shows now

/-! ## The stages of a commit -/

section Stages

variable (Shows : Int64 → Prop) (key : ScopeKey)

/-- What is left of a commit on its way to the read of an attempt. -/
inductive Approaches (terms : Terms) (remaining number : Nat) :
    Handling (Except SchedulerError Slot) → Prop where
  | read {now : Int64} (isShown : Shows now) :
      Approaches terms remaining number
        ((attempt key terms.waitThreshold now).bind
          (Retrying.settle terms key remaining number))
  | clock {next : Int64 → Handling (Except SchedulerError Slot)}
      (onward : ∀ now, Shows now → Approaches terms remaining number (next now)) :
      Approaches terms remaining number (Dialogue.ask .now next)
  | ask {query : Query} {next : query.Reply → Handling (Except SchedulerError Slot)}
      (elsewhere : query.concernsStore = false)
      (onward : ∀ reply, Approaches terms remaining number (next reply)) :
      Approaches terms remaining number (Dialogue.ask query next)
  | tell {note : Note} {next : Handling (Except SchedulerError Slot)}
      (onward : Approaches terms remaining number next) :
      Approaches terms remaining number (Dialogue.tell note next)

/-- A commit in the midst of its attempts: all before the present one were lost. -/
structure Contends (runs : List Terms) (party : Nat) (history : History)
    (terms : Terms) (remaining number : Nat) : Prop where
  isRun : runs[party]? = some terms
  numbered : number + remaining = terms.retry.maxAttempts.toNat
  lost : losses party history + 1 = number
  ungranted : ∀ grant ∈ grants history, grant.party ≠ party

/-- How a commit can end: with the time that it was granted, or with all of its
attempts lost. -/
inductive Settled (runs : List Terms) (party : Nat) (history : History) :
    Except SchedulerError Slot → Prop where
  | granted {slot : Slot} {grant : Grant} (member : grant ∈ grants history)
      (own : grant.party = party) (time : grant.plannedAt = slot.plannedAt)
      (lost : losses party history + 1 = slot.attempts) :
      Settled runs party history (.ok slot)
  | exhausted {terms : Terms} (isRun : runs[party]? = some terms)
      (lost : losses party history = terms.retry.maxAttempts.toNat) :
      Settled runs party history (.error (.retriesExhausted terms.retry.maxAttempts))

inductive Stage (initial : Option ScheduleRecord) (runs : List Terms) (party : Nat)
    (history : History) : Handling (Except SchedulerError Slot) → Prop where
  | approaching {terms : Terms} {remaining number : Nat}
      {dialogue : Handling (Except SchedulerError Slot)}
      (contends : Contends runs party history terms remaining number)
      (approaches : Approaches Shows key terms remaining number dialogue) :
      Stage initial runs party history dialogue
  | holding {terms : Terms} {remaining number : Nat} {now : Int64}
      {previous : Option ScheduleRecord}
      (contends : Contends runs party history terms remaining number)
      (isShown : Shows now) (holds : Holds key initial party previous history) :
      Stage initial runs party history
        ((proceed key terms.waitThreshold now previous).bind
          (Retrying.settle terms key remaining number))
  | ending {result : Except SchedulerError Slot}
      {dialogue : Handling (Except SchedulerError Slot)}
      (settled : Settled runs party history result) (ends : dialogue.Ends result) :
      Stage initial runs party history dialogue

end Stages

variable {Shows : Int64 → Prop} {key : ScopeKey} {initial : Option ScheduleRecord}
  {runs : List Terms} {party other : Nat} {history : History} {terms : Terms}
  {remaining number : Nat} {event : Event}
  {dialogue : Handling (Except SchedulerError Slot)}

/-! ## The moves of a commit -/

theorem approaches_commitFrom :
    Approaches Shows key terms remaining number
      (commitFrom terms key (remaining + 1) number) := by
  rw [Retrying.commitFrom_succ]
  exact .clock fun now isShown => .read isShown

/-- A write that was lost leads to another attempt, if one remains. -/
theorem approaches_of_conflict {rejection : StoreError} (conflict : rejection.Conflict)
    (now plannedAt : Int64) (previous : Option ScheduleRecord) :
    Approaches Shows key terms remaining (number + 1)
      ((conclude key now plannedAt previous (.error rejection)).bind
        (Retrying.settle terms key (remaining + 1) number)) := by
  rw [conclude, outcomeOf_conflict conflict]
  refine .tell (.tell (.ask rfl fun draw => .ask rfl fun slept => ?_))
  exact approaches_commitFrom

theorem ends_of_conflict {rejection : StoreError} (conflict : rejection.Conflict)
    (now plannedAt : Int64) (previous : Option ScheduleRecord) :
    ((conclude key now plannedAt previous (.error rejection)).bind
        (Retrying.settle terms key 0 number)).Ends
      (.error (.retriesExhausted terms.retry.maxAttempts)) := by
  rw [conclude, outcomeOf_conflict conflict]
  exact .tell (.tell .done)

theorem ends_of_grant (now plannedAt : Int64) (previous : Option ScheduleRecord) :
    ((conclude key now plannedAt previous (.ok ())).bind
        (Retrying.settle terms key remaining number)).Ends (.ok ⟨plannedAt, number⟩) :=
  .tell .done

theorem contends_of_aside (contends : Contends runs party history terms remaining number)
    (noLoss : isLostWrite event = false) (noGrant : written? event = none) :
    Contends runs party (history ++ [.event party event]) terms remaining number := by
  refine ⟨contends.isRun, contends.numbered, ?_, ?_⟩
  · rw [losses_concat_self, noLoss]
    exact contends.lost
  · rw [grants_concat_of_none (by rw [grant?, noGrant]; rfl)]
    exact contends.ungranted

theorem contends_of_loss
    (contends : Contends runs party history terms (remaining + 1) number)
    (lost : isLostWrite event = true) (noGrant : written? event = none) :
    Contends runs party (history ++ [.event party event]) terms remaining
      (number + 1) := by
  refine ⟨contends.isRun, ?_, ?_, ?_⟩
  · have numbered := contends.numbered
    omega
  · rw [losses_concat_self, lost, ← contends.lost]
    rfl
  · rw [grants_concat_of_none (by rw [grant?, noGrant]; rfl)]
    exact contends.ungranted

theorem Contends.concat (contends : Contends runs party history terms remaining number)
    (different : other ≠ party) :
    Contends runs party (history ++ [.event other event]) terms remaining number := by
  refine ⟨contends.isRun, contends.numbered, ?_, ?_⟩
  · rw [losses_concat_of_ne different]
    exact contends.lost
  · exact grants_concat_of_ne different contends.ungranted

theorem Settled.append {result : Except SchedulerError Slot} {later : History}
    (settled : Settled runs party history result) (noLoss : losses party later = 0) :
    Settled runs party (history ++ later) result := by
  cases settled with
  | granted member own time lost =>
      refine .granted ?_ own time ?_
      · rw [grants_append]
        exact List.mem_append_left _ member
      · rw [losses_append, noLoss]
        exact lost
  | exhausted isRun lost =>
      refine .exhausted isRun ?_
      rw [losses_append, noLoss]
      exact lost

/-- An attempt that writes is over, and so is its commit unless the write was lost
and attempts remain. -/
theorem stage_of_write {previous : Option ScheduleRecord}
    {now : Int64} {written : Except StoreError Unit}
    (contends : Contends runs party history terms remaining number)
    (answer : written = .ok () ∨
      ∃ rejection, written = .error rejection ∧ rejection.Conflict) :
    Stage Shows key initial runs party
      (history ++ [.event party
        (Retrying.writeCall key terms.waitThreshold now previous written)])
      ((conclude key now (plan previous terms.waitThreshold now) previous written).bind
        (Retrying.settle terms key remaining number)) := by
  rcases answer with rfl | ⟨rejection, rfl, conflict⟩
  · let record := ScheduleRecord.planned key (plan previous terms.waitThreshold now)
      terms.waitThreshold
    have member : ⟨party, record⟩ ∈ grants (history ++ [.event party
        (Retrying.writeCall key terms.waitThreshold now previous (.ok ()))]) := by
      rw [grants_concat_of_some (grant?_writeCall_ok ..)]
      exact List.mem_append_right _ (List.mem_singleton.mpr rfl)
    refine .ending (.granted member rfl rfl ?_) (ends_of_grant now _ previous)
    rw [losses_concat_self, isLostWrite_writeCall_ok]
    exact contends.lost
  · have lost : isLostWrite (Retrying.writeCall key terms.waitThreshold now previous
        (.error rejection)) = true :=
      isLostWrite_writeCall_error conflict ..
    cases remaining with
    | zero =>
        refine .ending (.exhausted contends.isRun ?_)
          (ends_of_conflict conflict now _ previous)
        rw [losses_concat_self, lost, ← contends.numbered, ← contends.lost]
        rfl
    | succ remaining =>
        exact .approaching (contends_of_loss contends lost (written?_writeCall_error ..))
          (approaches_of_conflict conflict now _ previous)

theorem conduct {reply : Nat → (query : Query) → World → query.Reply × World}
    (clocks : ∀ party world, Shows (reply party .now world).1) :
    Conduct key initial (Plans Shows runs) reply (Stage Shows key initial runs) where
  move := by
    intro party history dialogue remaining site behind event stage shown advanced
    cases stage with
    | approaching contends approaches =>
        cases approaches with
        | read isShown =>
            rw [attempt_eq] at advanced
            obtain ⟨rfl, rfl, recorded, holds⟩ := advance_read shown advanced
            exact ⟨recorded, .holding (contends_of_aside contends rfl rfl) isShown holds⟩
        | clock onward =>
            obtain ⟨rfl, rfl, recorded⟩ := advance_aside rfl shown advanced
            exact ⟨recorded, .approaching (contends_of_aside contends rfl rfl)
              (onward _ (clocks party site.world))⟩
        | ask elsewhere onward =>
            obtain ⟨rfl, rfl, recorded⟩ := advance_aside elsewhere shown advanced
            exact ⟨recorded, .approaching
              (contends_of_aside contends (isLostWrite_of_elsewhere elsewhere)
                (written?_of_elsewhere elsewhere)) (onward _)⟩
        | tell onward =>
            obtain ⟨rfl, rfl, recorded⟩ := advance_note shown advanced
            exact ⟨recorded, .approaching (contends_of_aside contends rfl rfl) onward⟩
    | holding contends isShown holds =>
        have plans : Plans Shows runs party _ _ := ⟨_, contends.isRun, rfl, isShown⟩
        obtain ⟨written, rfl, rfl, recorded, answer⟩ :=
          advance_proceed holds plans contends.ungranted shown advanced
        exact ⟨recorded, stage_of_write contends answer⟩
    | ending settled ends =>
        cases ends with
        | done => cases advanced
        | tell rest =>
            obtain ⟨rfl, rfl, recorded⟩ := advance_note shown advanced
            refine ⟨recorded, .ending (settled.append ?_) rest⟩
            exact losses_concat_self party [] _
  stand := by
    intro party other history dialogue event different stage
    cases stage with
    | approaching contends approaches =>
        exact .approaching (contends.concat different) approaches
    | holding contends isShown holds =>
        exact .holding (contends.concat different) isShown
          (holds.concat different event)
    | ending settled ends =>
        refine .ending (settled.append ?_) ends
        exact losses_concat_of_ne different [] event

theorem Approaches.ne_done (approaches : Approaches Shows key terms remaining number dialogue)
    (result : Except SchedulerError Slot) : dialogue ≠ .done result := by
  cases approaches with
  | read isShown =>
      rw [attempt_eq]
      exact nofun
  | clock onward => exact nofun
  | ask elsewhere onward => exact nofun
  | tell onward => exact nofun

theorem Stage.settled {result : Except SchedulerError Slot}
    (stage : Stage Shows key initial runs party history dialogue)
    (isDone : dialogue = .done result) : Settled runs party history result := by
  cases stage with
  | approaching contends approaches => exact absurd isDone (approaches.ne_done result)
  | @holding _ _ _ _ previous => cases previous <;> cases isDone
  | ending settled ends =>
      subst isDone
      cases ends with
      | done => exact settled

theorem stage_starting (isRun : runs[party]? = some terms) :
    Stage Shows key initial runs party [] (commit terms key) := by
  unfold commit
  cases attempts : terms.retry.maxAttempts.toNat with
  | zero => exact .ending (.exhausted isRun attempts.symm) .done
  | succ others =>
      have contends : Contends runs party [] terms others 1 :=
        ⟨isRun, by omega, rfl, nofun⟩
      exact .approaching contends approaches_commitFrom

variable {reply : Nat → (query : Query) → World → query.Reply × World}

theorem proper_contest (clocks : ∀ party world, Shows (reply party .now world).1)
    (site : Site World) (runs : List Terms) (order : List Nat) :
    Proper key (site.store.get? key) (Plans Shows runs)
      (Stage Shows key (site.store.get? key) runs) (contest reply key site runs order) := by
  refine (conduct clocks).proper_run (proper_starting ?_) order
  intro party dialogue present
  rw [List.getElem?_map] at present
  obtain ⟨terms, isRun, rfl⟩ := Option.map_eq_some_iff.mp present
  exact stage_starting isRun

/-! ## The length of a commit -/

/-- An attempt and the pause behind it take seven events at most: the clock, the
read, the write, two notes, a draw and a sleep. -/
theorem within_commitFrom (terms : Terms) (remaining number : Nat) :
    (commitFrom terms key remaining number).Within (7 * remaining) := by
  induction remaining generalizing number with
  | zero => exact .done _
  | succ remaining induction =>
      have settled : ∀ ended,
          (Retrying.settle terms key remaining number ended).Within
            (7 * remaining + 3) := by
        rintro (error | ⟨plannedAt, outcome, previous⟩)
        · exact .done _
        · cases outcome with
          | committed => exact .done _
          | conflict =>
              cases remaining with
              | zero => exact .tell (.done _)
              | succ others => exact .tell (.ask fun draw => .ask fun slept => induction _)
      rw [Retrying.commitFrom_succ, show 7 * (remaining + 1) = 7 * remaining + 3 + 3 + 1 by
        omega]
      exact .ask fun now => (within_attempt key terms.waitThreshold now).bind settled

theorem exists_result_of_moves (reply : Nat → (query : Query) → World → query.Reply × World)
    (key : ScopeKey) (site : Site World) {order : List Nat}
    (isRun : runs[party]? = some terms)
    (moves : 7 * terms.retry.maxAttempts.toNat ≤ order.count party) :
    ∃ result, (contest reply key site runs order).result? party = some result := by
  have present : (Interleaving.starting
      (runs.map fun terms => commit terms key) site :
        Interleaving Query Query.Reply Note (Except SchedulerError Slot) Int64
          (Site World)).parties[party]? = some (commit terms key) := by
    simp [Interleaving.starting, isRun]
  exact Interleaving.result?_of_within
    (fun party => (Surroundings.faultless (reply party)).respond) Site.reap
    (within_commitFrom terms _ 1) present moves

/-! ## Commits that are all granted -/

theorem Plans.isParty {threshold : UInt64} {now : Int64}
    (plans : Plans Shows runs party threshold now) : party < runs.length := by
  obtain ⟨terms, isRun, -⟩ := plans
  exact (List.getElem?_eq_some_iff.mp isRun).1

theorem settled_ok_of_result
    {contested : Interleaving Query Query.Reply Note (Except SchedulerError Slot) Int64
      (Site World)}
    (proper : Proper key initial (Plans Shows runs) (Stage Shows key initial runs) contested)
    (enough : ∀ terms ∈ runs, runs.length ≤ terms.retry.maxAttempts.toNat)
    {result : Except SchedulerError Slot}
    (isResult : contested.result? party = some result) :
    ∃ slot, result = .ok slot ∧ Settled runs party contested.history (.ok slot) := by
  have present := Interleaving.result?_eq_some_iff.mp isResult
  have settled := (proper.stages party _ present).settled rfl
  cases settled with
  | granted member own time lost =>
      exact ⟨_, rfl, .granted member own time lost⟩
  | @exhausted terms isRun lost =>
      -- All attempts were lost, which takes more grants than there are other commits.
      obtain ⟨isParty, rfl⟩ := List.getElem?_eq_some_iff.mp isRun
      have allowed := enough _ (List.getElem_mem isParty)
      have charged := proper.lawful.losses_le party
      have few := proper.lawful.grantsToOthers_lt (fun _ _ _ => Plans.isParty) isParty
      omega

/-- What is granted to a commit is a record with the window of its own threshold. -/
theorem record_of_grant_mem {grant : Grant}
    (lawful : Lawful key initial (Plans Shows runs) history)
    (member : grant ∈ grants history) :
    ∃ terms, runs[grant.party]? = some terms ∧
      grant.record = .planned key grant.plannedAt terms.waitThreshold := by
  obtain ⟨previous, _, now, ⟨terms, isRun, rfl, -⟩, isRecord⟩ := lawful.of_grant_mem member
  refine ⟨terms, isRun, ?_⟩
  rw [Grant.plannedAt, isRecord, ScheduleRecord.planned_lastExecutedAt]

/-- As many attempts as there are commits are enough for each of them, in every
order of their moves.  No commit ends without the time that it was granted; the
number of its attempts is one more than the number of writes it has lost; and for
each write that was lost, another commit was granted its own between the read and
the write.  A commit that gets to make its moves comes to its end.  The store holds
what was granted last, and each grant is a record of the time and the threshold of its
commit. -/
theorem every_commit_granted (reply : Nat → (query : Query) → World → query.Reply × World)
    (key : ScopeKey) (site : Site World) (runs : List Terms) (order : List Nat)
    (enough : ∀ terms ∈ runs, runs.length ≤ terms.retry.maxAttempts.toNat) :
    let outcome := contest reply key site runs order
    (∀ party result, outcome.result? party = some result →
      ∃ slot, result = .ok slot ∧
        (∃ grant ∈ grants outcome.history,
          grant.party = party ∧ grant.plannedAt = slot.plannedAt) ∧
        slot.attempts = losses party outcome.history + 1) ∧
    (∀ party earlier event later,
      outcome.history = earlier ++ .event party event :: later →
        isLostWrite event = true → Overtaken key party earlier) ∧
    (∀ party terms, runs[party]? = some terms →
      7 * terms.retry.maxAttempts.toNat ≤ order.count party →
        ∃ slot, outcome.result? party = some (.ok slot)) ∧
    outcome.state.store.get? key = stored (site.store.get? key) outcome.history ∧
    (∀ grant ∈ grants outcome.history, ∃ terms, runs[grant.party]? = some terms ∧
      grant.record = .planned key grant.plannedAt terms.waitThreshold) := by
  intro outcome
  have proper : Proper key (site.store.get? key) (Plans (fun _ => True) runs)
      (Stage (fun _ => True) key (site.store.get? key) runs) outcome :=
    proper_contest (fun _ _ => trivial) site runs order
  refine ⟨?_, ?_, ?_, proper.shown, fun grant => record_of_grant_mem proper.lawful⟩
  · intro party result isResult
    obtain ⟨slot, rfl, settled⟩ := settled_ok_of_result proper enough isResult
    cases settled with
    | granted member own time lost =>
        exact ⟨slot, rfl, ⟨_, member, own, time⟩, lost.symm⟩
  · intro party earlier event later same lost
    exact overtaken_of_loss (proper.lawful _ _ _ same) lost
  · intro party terms isRun moves
    obtain ⟨result, isResult⟩ := exists_result_of_moves reply key site isRun moves
    obtain ⟨slot, rfl, -⟩ := settled_ok_of_result proper enough isResult
    exact ⟨slot, isResult⟩

/-- Two commits read the empty store before either writes.  The second one loses
its write to the first, starts over, and is granted the end of the window. -/
theorem overtaken_commit_granted :
    let reply := fun _ : Nat => (Surroundings.steady 100).reply
    let site : Site Unit := ⟨Store.empty, ()⟩
    let runs : List Terms := [⟨60, .standard, false⟩, ⟨60, .standard, false⟩]
    let order := [0, 0, 1, 1, 0, 0, 1] ++ List.replicate 8 1
    let outcome := contest reply ⟨"account-region"⟩ site runs order
    (∀ terms ∈ runs, runs.length ≤ terms.retry.maxAttempts.toNat) ∧
      outcome.result? 0 = some (.ok ⟨100, 1⟩) ∧
      outcome.result? 1 = some (.ok ⟨160, 2⟩) ∧
      2 = losses 1 outcome.history + 1 ∧
      outcome.state.store.get? ⟨"account-region"⟩ =
        some (.planned ⟨"account-region"⟩ 160 60) := by
  intro reply site runs order outcome
  have enough : ∀ terms ∈ runs, runs.length ≤ terms.retry.maxAttempts.toNat := by decide
  have second : outcome.result? 1 = some (.ok ⟨160, 2⟩) := by decide +kernel
  have last : stored none outcome.history = some (.planned ⟨"account-region"⟩ 160 60) := by
    decide +kernel
  obtain ⟨ended, -, -, shown, -⟩ :=
    every_commit_granted reply ⟨"account-region"⟩ site runs order enough
  obtain ⟨slot, isSlot, -, counted⟩ := ended 1 _ second
  cases isSlot
  refine ⟨enough, by decide +kernel, second, counted, ?_⟩
  rw [shown]
  exact last

end Pacing.Contention
