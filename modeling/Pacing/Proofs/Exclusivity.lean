import Mathlib.Data.List.Chain
import Pacing.Proofs.Conduct
import Pacing.Proofs.Plan

/-!
# One writer for each version

Every write that is granted makes a new version of what is stored.  An update is
granted by the time that it expects and not by the version, so attempts that have
read one version exclude each other as long as no write repeats a time.  A write
can repeat the time only where the window is empty or the word ends; elsewhere the
granted times rise, and an attempt is granted the version next to the one that it
has read, or none.
-/

namespace Pacing.Exclusivity

open Handling Chronicle
open Racing (Attempt History race)
open ScheduleRecord (time?)

/-- A party reads what is stored behind so many grants, and then writes. -/
def Attempted (key : ScopeKey) (party version : Nat) (previous : Option ScheduleRecord)
    (event : Event) (history : History) : Prop :=
  ∃ earlier between later,
    history = earlier ++ .event party (.exchange (.read key) (.ok previous)) :: between ++
      .event party event :: later ∧
    Absent party between ∧ isWrite event = true ∧ (grants earlier).length = version

/-- A time that is behind another one, and repeats it only at the end of the word. -/
def Rises (earlier later : Int64) : Prop :=
  earlier ≤ later ∧ (later = earlier → earlier = Int64.maxValue)

def times (history : History) : List Int64 :=
  (grants history).map Grant.plannedAt

/-! ## Rising times -/

theorem Rises.trans {first second third : Int64} (rises : Rises first second)
    (onward : Rises second third) : Rises first third := by
  constructor
  · exact Int64.le_trans rises.1 onward.1
  · intro same
    have back : second ≤ first := same ▸ onward.1
    exact rises.2 (Int64.le_antisymm back rises.1)

instance : Trans Rises Rises Rises := ⟨Rises.trans⟩

/-- Among rising times the latest one stays the same only where nothing is added. -/
theorem eq_nil_of_getLast?_eq {earlier later : List Int64}
    (rising : (earlier ++ later).Pairwise Rises)
    (same : (earlier ++ later).getLast? = earlier.getLast?)
    (short : earlier.getLast? ≠ some Int64.maxValue) : later = [] := by
  rcases List.eq_nil_or_concat' later with rfl | ⟨rest, last, rfl⟩
  · rfl
  · rw [← List.append_assoc, List.getLast?_concat] at same
    have before : last ∈ earlier := List.mem_of_getLast? same.symm
    have repeats := (List.pairwise_append.mp rising).2.2 last before last (by simp)
    rw [← same, repeats.2 rfl] at short
    exact absurd rfl short

theorem times_append (earlier later : History) :
    times (earlier ++ later) = times earlier ++ times later := by
  rw [times, grants_append, List.map_append]
  rfl

theorem time?_stored (history : History) :
    time? (stored none history) = (times history).getLast? := by
  rw [stored, Option.or_none, time?, Option.map_map, times, List.getLast?_map]
  rfl

section Versions

variable {key : ScopeKey} {Plans : Nat → UInt64 → Int64 → Prop} {history : History}
  {party version : Nat} {previous : Option ScheduleRecord} {event : Event}

theorem isPlanned_of_stored (lawful : Lawful key none Plans history)
    {record : ScheduleRecord} (isStored : stored none history = some record) :
    record.IsPlanned := by
  obtain ⟨grant, member, rfl⟩ := List.mem_map.mp (stored_mem_grants isStored)
  obtain ⟨_, _, _, -, isRecord⟩ := lawful.of_grant_mem member
  rw [isRecord]
  exact ScheduleRecord.isPlanned_planned ..

/-- A plan under a window that is not empty rises above the time that was read. -/
theorem rises_plan {record : ScheduleRecord} (planned : record.IsPlanned)
    {threshold : UInt64} (apart : threshold ≠ 0) (now : Int64) :
    Rises record.lastExecutedAt (plan (some record) threshold now) := by
  constructor
  · exact last_le_plan planned threshold now
  · intro same
    rcases window_eq_zero_of_plan_eq_last planned same with empty | ends
    · have zero : threshold.toNat = 0 := by
        rw [Seconds.toInt_window] at empty
        omega
      exact absurd (UInt64.toNat.inj zero) apart
    · exact Int64.toInt.inj ends

theorem rising_times (lawful : Lawful key none Plans history)
    (apart : ∀ party threshold now, Plans party threshold now → threshold ≠ 0) :
    (times history).Pairwise Rises := by
  suffices chain : (times history).IsChain Rises by exact chain.pairwise
  refine lawful.grants_induction
    (motive := fun given => (given.map Grant.plannedAt).IsChain Rises) .nil ?_
  intro earlier grant previous threshold now lawful entitled rising
  rw [List.map_append, List.map_singleton]
  refine List.isChain_append.mpr ⟨rising, .singleton _, ?_⟩
  intro last isLast next isNext
  obtain rfl : grant.plannedAt = next := by simpa using isNext
  -- The latest time is the one that was read, whose record is planned.
  have isRead : time? previous = some last := by
    rw [← entitled.unchanged, time?_stored]
    exact isLast
  obtain ⟨record, rfl, rfl⟩ := Option.map_eq_some_iff.mp isRead
  obtain ⟨before, behind, rfl, isStored, -⟩ := entitled.holds
  have planned := isPlanned_of_stored lawful.before isStored.symm
  rw [Grant.plannedAt, entitled.isRecord]
  exact rises_plan planned (apart _ _ _ entitled.plans) now

/-! ## Versions -/

/-- An attempt that is granted its write makes the version next to the one that it
has read. -/
theorem next_version (lawful : Lawful key none Plans history)
    (rising : (times history).Pairwise Rises) {record : ScheduleRecord}
    (attempted : Attempted key party version previous event history)
    (granted : written? event = some record)
    (short : time? previous ≠ some Int64.maxValue) :
    (grants history)[version]? = some ⟨party, record⟩ := by
  obtain ⟨earlier, between, later, rfl, absent, -, rfl⟩ := attempted
  have isGrant : grant? (.event party event) = some ⟨party, record⟩ := by
    rw [grant?, granted]
    rfl
  obtain ⟨held, _, _, entitled⟩ := (lawful _ _ _ rfl).of_grant isGrant
  have unchanged := entitled.unchanged
  obtain ⟨before, behind, same, isStored, absentBehind⟩ := entitled.holds
  obtain ⟨rfl, equal⟩ := latest_unique same absent absentBehind
  cases equal
  -- The stored time is still the one that was read, so nobody was granted a write since.
  rw [isStored, time?_stored] at short unchanged
  rw [time?_stored, times_append] at unchanged
  rw [times_append, times_append] at rising
  have quiet := eq_nil_of_getLast?_eq (List.pairwise_append.mp rising).1 unchanged short
  rw [times, List.map_eq_nil_iff] at quiet
  rw [grants_append, grants_append, quiet, List.append_nil]
  simp [grants, isGrant]

/-- What an attempt reads depends on the version alone. -/
theorem time?_of_attempted (lawful : Lawful key none Plans history)
    (attempted : Attempted key party version previous event history) :
    time? previous = ((times history).take version).getLast? := by
  obtain ⟨earlier, between, later, rfl, absent, write, rfl⟩ := attempted
  obtain ⟨⟨held, before, behind, same, isStored, absentBehind⟩, -⟩ :=
    (lawful _ _ _ rfl).of_write write
  obtain ⟨rfl, equal⟩ := latest_unique same absent absentBehind
  cases equal
  have length : (times earlier).length = (grants earlier).length := List.length_map _
  rw [isStored, time?_stored, times_append, times_append, List.append_assoc,
    List.take_left' length]

theorem granted_or_lost (lawful : Lawful key none Plans history)
    (attempted : Attempted key party version previous event history) :
    (∃ record, written? event = some record) ∨ isLostWrite event = true := by
  obtain ⟨earlier, between, later, rfl, -, write, -⟩ := attempted
  exact ((lawful _ _ _ rfl).of_write write).2

/-- Of two parties that have read one version, one at most is granted its write, and
then the other has lost if it gets to write. -/
theorem lost_of_granted (lawful : Lawful key none Plans history)
    (rising : (times history).Pairwise Rises) {other : Nat}
    {reread : Option ScheduleRecord} {rewrite : Event} {record : ScheduleRecord}
    (attempted : Attempted key party version previous event history)
    (granted : written? event = some record)
    (short : time? previous ≠ some Int64.maxValue)
    (alsoAttempted : Attempted key other version reread rewrite history)
    (different : other ≠ party) : isLostWrite rewrite = true := by
  rcases granted_or_lost lawful alsoAttempted with ⟨rerecord, alsoGranted⟩ | lost
  · have alsoShort : time? reread ≠ some Int64.maxValue := by
      rwa [time?_of_attempted lawful alsoAttempted, ← time?_of_attempted lawful attempted]
    have first := next_version lawful rising attempted granted short
    have second := next_version lawful rising alsoAttempted alsoGranted alsoShort
    rw [first] at second
    cases second
    exact absurd rfl different
  · exact lost

end Versions

/-! ## The stages of an attempt -/

section Stages

variable (key : ScopeKey) (attempts : List Attempt) (party : Nat) (history : History)

def Plans (threshold : UInt64) (now : Int64) : Prop :=
  attempts[party]? = some ⟨threshold, now⟩

/-- How an attempt can end: its decision tells whether its write was granted. -/
inductive Decided : Except SchedulerError Decision → Prop where
  | committed {version : Nat} {previous : Option ScheduleRecord} {event : Event}
      {record : ScheduleRecord}
      (attempted : Attempted key party version previous event history)
      (granted : written? event = some record) :
      Decided (.ok ⟨record.lastExecutedAt, .committed, time? previous⟩)
  | conflict {version : Nat} {previous : Option ScheduleRecord} {event : Event}
      (plannedAt : Int64)
      (attempted : Attempted key party version previous event history)
      (lost : isLostWrite event = true) :
      Decided (.ok ⟨plannedAt, .conflict, time? previous⟩)

inductive Stage : Handling (Except SchedulerError Decision) → Prop where
  | unread {attempt : Attempt} (isAttempt : attempts[party]? = some attempt)
      (ungranted : ∀ grant ∈ grants history, grant.party ≠ party) :
      Stage (Handling.attempt key attempt.threshold attempt.now)
  | holding {attempt : Attempt} {previous : Option ScheduleRecord}
      (isAttempt : attempts[party]? = some attempt)
      (ungranted : ∀ grant ∈ grants history, grant.party ≠ party)
      (holds : Holds key none party previous history) :
      Stage (proceed key attempt.threshold attempt.now previous)
  | ending {result : Except SchedulerError Decision}
      {dialogue : Handling (Except SchedulerError Decision)}
      (decided : Decided key party history result) (ends : dialogue.Ends result) :
      Stage dialogue

end Stages

section Moves

variable {key : ScopeKey} {attempts : List Attempt} {party version : Nat}
  {history : History} {previous : Option ScheduleRecord} {event : Event}

theorem Attempted.append (attempted : Attempted key party version previous event history)
    (later : History) : Attempted key party version previous event (history ++ later) := by
  obtain ⟨earlier, between, behind, rfl, rest⟩ := attempted
  exact ⟨earlier, between, behind ++ later, by simp, rest⟩

theorem Decided.append {result : Except SchedulerError Decision}
    (decided : Decided key party history result) (later : History) :
    Decided key party (history ++ later) result := by
  cases decided with
  | committed attempted granted => exact .committed (attempted.append later) granted
  | conflict plannedAt attempted lost =>
      exact .conflict plannedAt (attempted.append later) lost

theorem attempted_of_holds (holds : Holds key none party previous history)
    (write : isWrite event = true) :
    ∃ version, Attempted key party version previous event
      (history ++ [.event party event]) := by
  obtain ⟨earlier, between, rfl, -, absent⟩ := holds
  exact ⟨_, earlier, between, [], rfl, absent, write, rfl⟩

theorem stage_of_write {threshold : UInt64} {now : Int64}
    {written : Except StoreError Unit} (holds : Holds key none party previous history)
    (answer : written = .ok () ∨
      ∃ rejection, written = .error rejection ∧ rejection.Conflict) :
    Stage key attempts party
      (history ++ [.event party (Retrying.writeCall key threshold now previous written)])
      (conclude key now (plan previous threshold now) previous written) := by
  have write : isWrite (Retrying.writeCall key threshold now previous written) = true := by
    cases previous <;> rfl
  obtain ⟨version, attempted⟩ := attempted_of_holds holds write
  rcases answer with rfl | ⟨rejection, rfl, conflict⟩
  · refine .ending (.committed attempted (written?_writeCall_ok ..)) ?_
    exact .tell .done
  · have lost : isLostWrite (Retrying.writeCall key threshold now previous
        (.error rejection)) = true :=
      isLostWrite_writeCall_error conflict ..
    refine .ending (.conflict (plan previous threshold now) attempted lost) ?_
    rw [conclude, outcomeOf_conflict conflict]
    exact .tell .done

theorem conduct {World : Type}
    (reply : Nat → (query : Query) → World → query.Reply × World) :
    Conduct key none (Plans attempts) reply (Stage key attempts) where
  move := by
    intro party history dialogue remaining site behind event stage shown advanced
    cases stage with
    | unread isAttempt ungranted =>
        rw [attempt_eq] at advanced
        obtain ⟨rfl, rfl, recorded, holds⟩ := advance_read shown advanced
        refine ⟨recorded, .holding isAttempt ?_ holds⟩
        rw [grants_concat_of_none rfl]
        exact ungranted
    | @holding attempt _ isAttempt ungranted holds =>
        have plans : Plans attempts party attempt.threshold attempt.now := isAttempt
        rw [← Dialogue.bind_done_right (proceed ..)] at advanced
        obtain ⟨written, rfl, rfl, recorded, answer⟩ :=
          advance_proceed holds plans ungranted shown advanced
        rw [Dialogue.bind_done_right]
        exact ⟨recorded, stage_of_write holds answer⟩
    | ending decided ends =>
        cases ends with
        | done => cases advanced
        | tell rest =>
            obtain ⟨rfl, rfl, recorded⟩ := advance_note shown advanced
            exact ⟨recorded, .ending (decided.append _) rest⟩
  stand := by
    intro party other history dialogue event different stage
    cases stage with
    | unread isAttempt ungranted =>
        exact .unread isAttempt (grants_concat_of_ne different ungranted)
    | holding isAttempt ungranted holds =>
        exact .holding isAttempt (grants_concat_of_ne different ungranted)
          (holds.concat different event)
    | ending decided ends => exact .ending (decided.append _) ends

theorem Stage.decided {result : Except SchedulerError Decision}
    {dialogue : Handling (Except SchedulerError Decision)}
    (stage : Stage key attempts party history dialogue) (isDone : dialogue = .done result) :
    Decided key party history result := by
  cases stage with
  | unread =>
      rw [attempt_eq] at isDone
      cases isDone
  | @holding _ previous => cases previous <;> cases isDone
  | ending decided ends =>
      subst isDone
      cases ends with
      | done => exact decided

end Moves

/-! ## Races -/

section Races

variable {World : Type} (reply : (query : Query) → World → query.Reply × World)
  (key : ScopeKey) (world : World) (attempts : List Attempt) (order : List Nat)

theorem proper_race :
    Proper key none (Plans attempts) (Stage key attempts)
      (race (Surroundings.faultless reply) key world attempts (order.map Move.party)) := by
  have starts : ∀ party dialogue,
      (Racing.starting key world attempts).parties[party]? = some dialogue →
        Stage key attempts party [] dialogue := by
    intro party dialogue present
    unfold Racing.starting Interleaving.starting at present
    rw [List.getElem?_map] at present
    obtain ⟨attempt, isAttempt, rfl⟩ := Option.map_eq_some_iff.mp present
    exact .unread isAttempt nofun
  have start : Proper key none (Plans attempts) (Stage key attempts)
      (Racing.starting key world attempts) :=
    ⟨lawful_nil, rfl, starts⟩
  exact (conduct fun _ => reply).proper_run start order

/-- In a race of attempts whose windows are not empty there is one writer for each
version that is short of the end of the word: of the attempts that have read it, one
at most is granted its write, and then every other that gets to write has lost.  An
attempt whose write is answered was granted it or has lost it, its decision says
which, and no attempt ends otherwise. -/
theorem one_writer_per_version
    (debounced : ∀ attempt ∈ attempts, attempt.threshold ≠ 0) :
    let outcome := race (Surroundings.faultless reply) key world attempts
      (order.map Move.party)
    (∀ party version previous event record,
      Attempted key party version previous event outcome.history →
        written? event = some record → time? previous ≠ some Int64.maxValue →
          ∀ other reread rewrite, other ≠ party →
            Attempted key other version reread rewrite outcome.history →
              isLostWrite rewrite = true) ∧
    (∀ party version previous event,
      Attempted key party version previous event outcome.history →
        (∃ record, written? event = some record) ∨ isLostWrite event = true) ∧
    (∀ party result, outcome.result? party = some result →
      Decided key party outcome.history result) ∧
    (∀ party attempt, attempts[party]? = some attempt → 3 ≤ order.count party →
      ∃ result, outcome.result? party = some result) := by
  intro outcome
  have proper := proper_race reply key world attempts order
  have apart : ∀ party threshold now, Plans attempts party threshold now →
      threshold ≠ 0 := by
    intro party threshold now isAttempt
    exact debounced _ (List.mem_of_getElem? isAttempt)
  have rising := rising_times proper.lawful apart
  refine ⟨?_, ?_, ?_, ?_⟩
  · intro party version previous event record attempted granted short other reread rewrite
      different alsoAttempted
    exact lost_of_granted proper.lawful rising attempted granted short alsoAttempted
      different
  · intro party version previous event attempted
    exact granted_or_lost proper.lawful attempted
  · intro party result isResult
    have present := Interleaving.result?_eq_some_iff.mp isResult
    exact (proper.stages party _ present).decided rfl
  · intro party attempt isAttempt moves
    have present : (Racing.starting key world attempts).parties[party]? =
        some (Handling.attempt key attempt.threshold attempt.now) := by
      simp [Racing.starting, Interleaving.starting, isAttempt]
    exact Interleaving.result?_of_within
      (fun _ => (Surroundings.faultless reply).respond) Site.reap
      (within_attempt key _ _) present moves

end Races

/-! ## Pursuits -/

section Pursuits

variable (threshold : UInt64)

def pursuers : List Attempt :=
  [1000, 1000, 1500].map (Attempt.mk threshold)

/-- A race in which two attempts read the record of a third one, and then write one
after the other. -/
def pursuit : Racing.Race Unit :=
  race (Surroundings.steady 0) ⟨"account"⟩ () (pursuers threshold)
    ([0, 0, 0, 1, 2, 1, 2, 1, 2].map Move.party)

def pursued : ScheduleRecord :=
  ScheduleRecord.planned ⟨"account"⟩ 1000 threshold

def approach : History :=
  [.event 0 (.exchange (.read ⟨"account"⟩) (.ok none)),
    .event 0 (.exchange (.create (pursued threshold)) (.ok ())),
    .event 0 (.note (.attemptFinished ⟨"account"⟩ 1000 1000 none .committed)),
    .event 1 (.exchange (.read ⟨"account"⟩) (.ok (some (pursued threshold)))),
    .event 2 (.exchange (.read ⟨"account"⟩) (.ok (some (pursued threshold))))]

def overwrite (plannedAt : Int64) (answer : Except StoreError Unit) : Event :=
  .exchange (.update ⟨"account"⟩ 1000
    (ScheduleRecord.planned ⟨"account"⟩ plannedAt threshold)) answer

theorem attempted_pursuit {plannedAt : Int64} {answer : Except StoreError Unit}
    {next : Int64} {reply : Except StoreError Unit} {behind history : History}
    (same : history = approach threshold ++
      [.event 1 (overwrite threshold plannedAt answer),
        .event 2 (overwrite threshold next reply)] ++ behind) :
    Attempted ⟨"account"⟩ 1 1 (some (pursued threshold))
        (overwrite threshold plannedAt answer) history ∧
      Attempted ⟨"account"⟩ 2 1 (some (pursued threshold))
        (overwrite threshold next reply) history := by
  subst same
  constructor
  · refine ⟨(approach threshold).take 3, (approach threshold).drop 4, _, rfl, ?_, rfl, rfl⟩
    simp [Absent, approach]
  · refine ⟨(approach threshold).take 4,
      [.event 1 (overwrite threshold plannedAt answer)], _, rfl, ?_, rfl, rfl⟩
    simp [Absent]

/-- The first of the two to write is granted the end of the window, and so the other
one loses its write. -/
theorem pursuer_overtaken :
    (∀ attempt ∈ pursuers 60, attempt.threshold ≠ 0) ∧
      ∃ written refused,
        Attempted ⟨"account"⟩ 1 1 (some (pursued 60)) written (pursuit 60).history ∧
        written? written = some (ScheduleRecord.planned ⟨"account"⟩ 1060 60) ∧
        Attempted ⟨"account"⟩ 2 1 (some (pursued 60)) refused (pursuit 60).history ∧
        isLostWrite refused = true := by
  have debounced : ∀ attempt ∈ pursuers 60, attempt.threshold ≠ 0 := by decide
  have history : (pursuit 60).history = approach 60 ++
      [.event 1 (overwrite 60 1060 (.ok ())),
        .event 2 (overwrite 60 1500 (.error (.conditionFailed "account")))] ++
      [.event 1 (.note (.attemptFinished ⟨"account"⟩ 1000 1060 (some 1000) .committed)),
        .event 2 (.note (.attemptFinished ⟨"account"⟩ 1500 1500 (some 1000) .conflict))] :=
    rfl
  obtain ⟨granted, lost⟩ := attempted_pursuit 60 history
  refine ⟨debounced, _, _, granted, rfl, lost, ?_⟩
  exact (one_writer_per_version (Surroundings.steady 0).reply ⟨"account"⟩ () (pursuers 60)
    _ debounced).1 1 1 _ _ _ granted rfl (by decide) 2 _ _ (by decide) lost

/-- Where windows may be empty, versions can have two writers: the first of the two
to write repeats the time of the record that both have read, and then the second one
is granted its write over a version that it has not read. -/
theorem two_writers_of_one_version :
    ¬ ∀ (threshold : UInt64) (clocks : List Int64) (order : List Nat)
        (party version : Nat) (previous : Option ScheduleRecord) (event : Event)
        (record : ScheduleRecord),
      let outcome := race (Surroundings.steady 0) ⟨"account"⟩ ()
        (clocks.map (Attempt.mk threshold)) (order.map Move.party)
      Attempted ⟨"account"⟩ party version previous event outcome.history →
        written? event = some record →
          ∀ other reread rewrite, other ≠ party →
            Attempted ⟨"account"⟩ other version reread rewrite outcome.history →
              isLostWrite rewrite = true := by
  intro exclusive
  have history : (pursuit 0).history = approach 0 ++
      [.event 1 (overwrite 0 1000 (.ok ())), .event 2 (overwrite 0 1500 (.ok ()))] ++
      [.event 1 (.note (.attemptFinished ⟨"account"⟩ 1000 1000 (some 1000) .committed)),
        .event 2 (.note (.attemptFinished ⟨"account"⟩ 1500 1500 (some 1000) .committed))] :=
    rfl
  obtain ⟨first, second⟩ := attempted_pursuit 0 history
  have lost := exclusive 0 [1000, 1000, 1500] _ 1 1 _ _ _ first rfl 2 _ _ (by decide) second
  cases lost

end Pursuits

end Pacing.Exclusivity
