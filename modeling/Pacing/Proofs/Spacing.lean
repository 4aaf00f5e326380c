import Mathlib.Data.List.Chain
import Pacing.Proofs.Plan
import Pacing.Proofs.Racing

/-!
# The spacing of a scope

Whatever the order in which the attempts of a race move, the times that they
commit never decrease, are never in the past of the attempt that commits, and
keep the distance of the smaller of the two thresholds concerned.

An attempt may write long after it has read, so the invariant ties what each
attempt has read to the latest commit: either it is the record of that commit,
or the commit has moved on to a later time, or it has repeated the time in the
only two ways there are, with an empty window or at the end of the word.
-/

namespace Pacing.Spacing

open Racing

variable {World : Type} (surroundings : Surroundings World) (key : ScopeKey)

/-- An attempt that writes behind a reaping has a clock that has reached the
time of that reaping. -/
def InTime (attempts : List Attempt) :
    (earlier later : Occurrence Query Query.Reply Note Int64) → Prop
  | .outside reaped, .event index event =>
    Handling.isWrite event = true →
      ∀ attempt, attempts[index]? = some attempt → reaped ≤ attempt.now
  | _, _ => True

instance (attempts : List Attempt)
    (earlier later : Occurrence Query Query.Reply Note Int64) :
    Decidable (InTime attempts earlier later) :=
  match earlier, later with
  | .outside reaped, .event index event =>
    match owner : attempts[index]? with
    | none => .isTrue fun _ _ isOwner => by cases owner.symm.trans isOwner
    | some attempt =>
      decidable_of_iff (Handling.isWrite event = true → reaped ≤ attempt.now)
        ⟨fun inTime write _ isOwner =>
            Option.some.inj (owner.symm.trans isOwner) ▸ inTime write,
          fun inTime write => inTime write attempt owner⟩
  | .outside _, .outside _ => .isTrue trivial
  | .event .., _ => .isTrue trivial

/-- No attempt writes behind a reaping with a clock that is behind its time. -/
def ReapedInTime (attempts : List Attempt) (history : History) : Prop :=
  history.Pairwise (InTime attempts)

/-- A commit follows another one at the distance of the smaller window. -/
def Spaced (earlier later : Commit) : Prop :=
  Seconds.windowEnd earlier.plannedAt
      (min earlier.attempt.threshold later.attempt.threshold) ≤
    later.plannedAt.toInt

instance (earlier later : Commit) : Decidable (Spaced earlier later) :=
  inferInstanceAs (Decidable (_ ≤ _))

/-! ## What an attempt knows -/

/-- A commit has moved on from a record that was read before it, or has
repeated its time. -/
def Superseded (record : ScheduleRecord) (commit : Commit) : Prop :=
  record.lastExecutedAt < commit.plannedAt ∨
    (record.lastExecutedAt = commit.plannedAt ∧
      ((Seconds.window commit.attempt.threshold).toInt = 0 ∨
        commit.plannedAt.toInt = 0x7FFFFFFFFFFFFFFF))

/-- How a record that some attempt has read stands to the commits so far. -/
def Known (committed : List Commit) (record : ScheduleRecord) : Prop :=
  record.IsPlanned ∧
    ∃ latest, committed.getLast? = some latest ∧
      (record = latest.record key ∨ Superseded record latest)

/-- The next commit, seen from the commits so far: it is not in the past, it
keeps its distance, and it repeats a time only in one of the two ways. -/
structure Follows (committed : List Commit) (commit : Commit) : Prop where
  notPast : commit.attempt.now ≤ commit.plannedAt
  spaced : ∀ latest, committed.getLast? = some latest → Spaced latest commit
  repeats : ∀ latest, committed.getLast? = some latest →
    latest.plannedAt = commit.plannedAt →
      (Seconds.window commit.attempt.threshold).toInt = 0 ∨
        commit.plannedAt.toInt = 0x7FFFFFFFFFFFFFFF

variable {key}

theorem Spaced.le {earlier later : Commit} (spaced : Spaced earlier later) :
    earlier.plannedAt ≤ later.plannedAt := by
  have fits := earlier.plannedAt.toInt_lt
  rw [Spaced, Seconds.windowEnd] at spaced
  rw [Int64.le_iff_toInt_le]
  omega

theorem Known.append {committed : List Commit} {commit : Commit}
    {record : ScheduleRecord} (known : Known key committed record)
    (follows : Follows committed commit) :
    Known key (committed ++ [commit]) record := by
  obtain ⟨planned, latest, isLatest, relation⟩ := known
  refine ⟨planned, commit, List.getLast?_concat, .inr ?_⟩
  have reached : record.lastExecutedAt ≤ latest.plannedAt := by
    rcases relation with rfl | before | ⟨same, _⟩
    · exact Int64.le_iff_toInt_le.mpr (Int.le_refl _)
    · exact Int64.le_of_lt before
    · exact same ▸ Int64.le_iff_toInt_le.mpr (Int.le_refl _)
  have onward := (follows.spaced latest isLatest).le
  -- A commit at the time that was read is one that repeats the latest time.
  by_cases moved : record.lastExecutedAt = commit.plannedAt
  · have still : latest.plannedAt = commit.plannedAt :=
      Int64.le_antisymm onward (moved ▸ reached)
    exact .inr ⟨moved, follows.repeats latest isLatest still⟩
  · exact .inl (Int64.lt_iff_le_and_ne.mpr
      ⟨Int64.le_trans reached onward, moved⟩)

/-- A write that is acknowledged has found the time that was read.  Wherever
the record behind that time comes from, the plan made for it follows the
commits so far. -/
theorem follows_of_update {committed : List Commit} {attempt : Attempt}
    {record : ScheduleRecord} (known : Known key committed record)
    (found : ∀ latest, committed.getLast? = some latest →
      latest.plannedAt = record.lastExecutedAt) :
    Follows committed
      ⟨attempt, plan (some record) attempt.threshold attempt.now⟩ := by
  obtain ⟨planned, latest, isLatest, relation⟩ := known
  have time := found latest isLatest
  have onward := last_le_plan planned attempt.threshold attempt.now
  refine ⟨now_le_plan (fun _ same => Option.some.inj same ▸ planned) _ _, ?_, ?_⟩
  · intro other isOther
    obtain rfl : latest = other := Option.some.inj (isLatest.symm.trans isOther)
    -- The record is that of the latest commit, or has been left behind, which
    -- the condition of the write excludes, or its time has been repeated.
    rcases relation with same | before | ⟨_, still⟩
    · have expiry : record.expiresAt =
          Seconds.add record.lastExecutedAt
            (Seconds.window latest.attempt.threshold) := by
        rw [same]
        rfl
      have spaced := windowEnd_le_plan expiry attempt.threshold attempt.now
      rw [← time] at spaced
      exact spaced
    · rw [time] at before
      exact (Int64.lt_irrefl before).elim
    · have ends := Int64.le_iff_toInt_le.mp onward
      have fits := (plan (some record) attempt.threshold attempt.now).toInt_lt
      have nonneg := Seconds.window_nonneg attempt.threshold
      rw [Spaced, Seconds.windowEnd_min]
      rw [← time] at ends
      dsimp only
      omega
  · intro other isOther repeated
    obtain rfl : latest = other := Option.some.inj (isLatest.symm.trans isOther)
    have isTime : plan (some record) attempt.threshold attempt.now =
        record.lastExecutedAt := repeated.symm.trans time
    rcases window_eq_zero_of_plan_eq_last planned isTime with empty | ends
    · exact .inl empty
    · exact .inr (by rw [isTime]; exact ends)

/-- A creation finds no record: the latest one has been reaped, and the clock
of the attempt is past its window. -/
theorem follows_of_create {committed : List Commit} {attempt : Attempt}
    (past : ∀ latest, committed.getLast? = some latest →
      (latest.record key).expiresAt < attempt.now) :
    Follows committed ⟨attempt, attempt.now⟩ := by
  refine ⟨Int64.le_iff_toInt_le.mpr (Int.le_refl _), ?_, ?_⟩
  · intro latest isLatest
    have after := Int64.lt_iff_toInt_lt.mp (past latest isLatest)
    rw [Commit.record, ScheduleRecord.planned_expiresAt,
      Seconds.toInt_add_window] at after
    rw [Spaced, Seconds.windowEnd_min]
    dsimp only
    omega
  · intro latest isLatest repeated
    have after := Int64.lt_iff_toInt_lt.mp (past latest isLatest)
    have nonneg := Seconds.window_nonneg latest.attempt.threshold
    have fits := attempt.now.toInt_lt
    have same : latest.plannedAt.toInt = attempt.now.toInt := by rw [repeated]
    rw [Commit.record, ScheduleRecord.planned_expiresAt,
      Seconds.toInt_add_window] at after
    omega

/-! ## What a race keeps -/

/-- A committed decision is one of the commits. -/
def Recorded (attempt : Attempt) (committed : List Commit)
    (result : Except SchedulerError Decision) : Prop :=
  ∀ decision, result = .ok decision → decision.outcome = .committed →
    ⟨attempt, decision.plannedAt⟩ ∈ committed

theorem recorded_error (attempt : Attempt) (committed : List Commit)
    (error : SchedulerError) : Recorded attempt committed (.error error) := by
  intro decision isOk
  cases isOk

variable (key) in
/-- How far an attempt has come, and what it knows there. -/
inductive Phase (attempt : Attempt) (committed : List Commit) :
    Handling (Except SchedulerError Decision) → Prop where
  | unread :
      Phase attempt committed (Handling.attempt key attempt.threshold attempt.now)
  | read (previous : Option ScheduleRecord) :
      (∀ record, previous = some record → Known key committed record) →
      Phase attempt committed
        (Handling.proceed key attempt.threshold attempt.now previous)
  | written (note : Note) (result : Except SchedulerError Decision) :
      Recorded attempt committed result →
      Phase attempt committed (Dialogue.tell note (.done result))
  | finished (result : Except SchedulerError Decision) :
      Recorded attempt committed result →
      Phase attempt committed (.done result)

theorem Phase.append {attempt : Attempt} {committed : List Commit} {commit : Commit}
    {party : Handling (Except SchedulerError Decision)}
    (phase : Phase key attempt committed party)
    (follows : Follows committed commit) :
    Phase key attempt (committed ++ [commit]) party := by
  cases phase with
  | unread => exact .unread
  | read previous known =>
      exact .read previous fun record isRead => (known record isRead).append follows
  | written note result recorded =>
      exact .written note result fun decision isOk isCommitted =>
        List.mem_append_left _ (recorded decision isOk isCommitted)
  | finished result recorded =>
      exact .finished result fun decision isOk isCommitted =>
        List.mem_append_left _ (recorded decision isOk isCommitted)

theorem Phase.recorded {attempt : Attempt} {committed : List Commit}
    {party : Handling (Except SchedulerError Decision)}
    (phase : Phase key attempt committed party)
    {result : Except SchedulerError Decision} (isDone : party = .done result) :
    Recorded attempt committed result := by
  cases phase with
  | unread =>
      rw [Handling.attempt_eq] at isDone
      cases isDone
  | read previous _ => cases previous <;> cases isDone
  | written => cases isDone
  | finished _ recorded => exact Dialogue.done.inj isDone ▸ recorded

variable (key) in
/-- The invariant of a race: the store holds the record of the latest commit or
has lost it to a reaping, every attempt is in one of its phases, and the
commits so far are as they should be. -/
structure Invariant (attempts : List Attempt) (race : Race World) : Prop where
  stored : ∀ record, race.state.store.get? key = some record →
    ∃ latest, (commits attempts race.history).getLast? = some latest ∧
      record = latest.record key
  reaped : race.state.store.get? key = none →
    ∀ latest, (commits attempts race.history).getLast? = some latest →
      ∃ now, Occurrence.outside now ∈ race.history ∧
        (latest.record key).expiresAt < now
  phases : ∀ (index : Nat) party, race.parties[index]? = some party →
    ∃ attempt, attempts[index]? = some attempt ∧
      Phase key attempt (commits attempts race.history) party
  spaced : (commits attempts race.history).IsChain Spaced
  notPast : ∀ commit, commit ∈ commits attempts race.history →
    commit.attempt.now ≤ commit.plannedAt

/-- The invariant over commits that are known by another name. -/
theorem invariant_of {attempts : List Attempt} {race : Race World}
    {committed : List Commit} (same : commits attempts race.history = committed)
    (stored : ∀ record, race.state.store.get? key = some record →
      ∃ latest, committed.getLast? = some latest ∧ record = latest.record key)
    (reaped : race.state.store.get? key = none →
      ∀ latest, committed.getLast? = some latest →
        ∃ now, Occurrence.outside now ∈ race.history ∧
          (latest.record key).expiresAt < now)
    (phases : ∀ (index : Nat) party, race.parties[index]? = some party →
      ∃ attempt, attempts[index]? = some attempt ∧ Phase key attempt committed party)
    (spaced : committed.IsChain Spaced)
    (notPast : ∀ commit, commit ∈ committed → commit.attempt.now ≤ commit.plannedAt) :
    Invariant key attempts race := by
  subst same
  exact ⟨stored, reaped, phases, spaced, notPast⟩

theorem invariant_starting (world : World) (attempts : List Attempt) :
    Invariant key attempts (starting key world attempts) := by
  refine ⟨?_, ?_, ?_, ?_, ?_⟩
  · intro record isStored
    cases isStored
  · intro _ latest isLatest
    cases isLatest
  · intro index party present
    rw [starting, Interleaving.starting, List.getElem?_map] at present
    obtain ⟨attempt, isAttempt, rfl⟩ := Option.map_eq_some_iff.mp present
    exact ⟨attempt, isAttempt, .unread⟩
  · exact .nil
  · intro commit member
    cases member

/-- A reaping removes the latest record only behind its expiry. -/
theorem invariant_reap {attempts : List Attempt} {race : Race World}
    (invariant : Invariant key attempts race) (now : Int64) :
    Invariant key attempts
      { race with
        state := race.state.reap now
        history := race.history ++ [.outside now] } := by
  have sameCommits : commits attempts (race.history ++ [.outside now]) =
      commits attempts race.history := by
    rw [commits_append]
    exact List.append_nil _
  have kept : ∀ record, (race.state.reap now).store.get? key = some record →
      race.state.store.get? key = some record := by
    intro record isStored
    rw [Site.reap, Store.get?_reap] at isStored
    exact (Option.filter_eq_some_iff.mp isStored).1
  refine invariant_of sameCommits ?_ ?_ ?_ ?_ ?_
  · exact fun record isStored => invariant.stored record (kept record isStored)
  · intro absent latest isLatest
    cases before : race.state.store.get? key with
    | none =>
        obtain ⟨earlier, happened, behind⟩ := invariant.reaped before latest isLatest
        exact ⟨earlier, List.mem_append_left _ happened, behind⟩
    | some record =>
        obtain ⟨other, isOther, same⟩ := invariant.stored record before
        obtain rfl : latest = other := Option.some.inj (isLatest.symm.trans isOther)
        refine ⟨now, List.mem_append_right _ (List.mem_singleton.mpr rfl), ?_⟩
        rw [Site.reap, Store.get?_reap, before, Option.filter_eq_none_iff] at absent
        have expired : record.isExpired now = true := by
          simpa using absent record rfl
        rw [← same]
        exact (record.isExpired_eq_true now).mp expired
  · exact invariant.phases
  · exact invariant.spaced
  · exact invariant.notPast

section Move

variable {attempts : List Attempt} {race : Race World} {index : Nat}
  {attempt : Attempt} {event : Handling.Event} {site : Site World}
  {remaining : Handling (Except SchedulerError Decision)}

/-- A party that has moved is in a phase again if it itself is, and if every
phase outlasts what has been committed meanwhile. -/
theorem phases_set {committed afterwards : List Commit}
    {parties : List (Handling (Except SchedulerError Decision))}
    (phases : ∀ (index : Nat) party, parties[index]? = some party →
      ∃ attempt, attempts[index]? = some attempt ∧ Phase key attempt committed party)
    (outlasts : ∀ attempt party, Phase key attempt committed party →
      Phase key attempt afterwards party)
    (isAttempt : attempts[index]? = some attempt)
    (phase : Phase key attempt afterwards remaining) :
    ∀ (other : Nat) party, (parties.set index remaining)[other]? = some party →
      ∃ attempt, attempts[other]? = some attempt ∧
        Phase key attempt afterwards party := by
  intro other party present
  rw [List.getElem?_set] at present
  by_cases same : index = other
  · subst other
    rw [if_pos rfl] at present
    split at present
    · obtain rfl := Option.some.inj present
      exact ⟨attempt, isAttempt, phase⟩
    · cases present
  · rw [if_neg same] at present
    obtain ⟨owner, isOwner, earlier⟩ := phases other party present
    exact ⟨owner, isOwner, outlasts owner party earlier⟩

theorem invariant_quiet (invariant : Invariant key attempts race)
    (quiet : commit? attempts (.event index event) = none)
    (untouched : site.store = race.state.store)
    (isAttempt : attempts[index]? = some attempt)
    (phase : Phase key attempt (commits attempts race.history) remaining) :
    Invariant key attempts
      { parties := race.parties.set index remaining
        state := site
        history := race.history ++ [.event index event] } := by
  have sameCommits : commits attempts (race.history ++ [.event index event]) =
      commits attempts race.history := by
    rw [commits_append, commits, commits, List.filterMap_cons_none quiet]
    exact List.append_nil _
  refine invariant_of sameCommits ?_ ?_ ?_ ?_ ?_
  · rw [untouched]
    exact invariant.stored
  · rw [untouched]
    intro absent latest isLatest
    obtain ⟨now, happened, behind⟩ := invariant.reaped absent latest isLatest
    exact ⟨now, List.mem_append_left _ happened, behind⟩
  · exact phases_set invariant.phases (fun _ _ phase => phase) isAttempt phase
  · exact invariant.spaced
  · exact invariant.notPast

theorem invariant_commit (commit : Commit) (invariant : Invariant key attempts race)
    (committed : commit? attempts (.event index event) = some commit)
    (filed : site.store = race.state.store.put key (commit.record key))
    (follows : Follows (commits attempts race.history) commit)
    (isAttempt : attempts[index]? = some attempt)
    (phase : Phase key attempt (commits attempts race.history ++ [commit]) remaining) :
    Invariant key attempts
      { parties := race.parties.set index remaining
        state := site
        history := race.history ++ [.event index event] } := by
  have moreCommits : commits attempts (race.history ++ [.event index event]) =
      commits attempts race.history ++ [commit] := by
    rw [commits_append]
    refine congrArg _ ?_
    rw [commits, List.filterMap_cons_some committed, List.filterMap_nil]
  have present : site.store.get? key = some (commit.record key) := by
    rw [filed, Store.get?_put_self]
  refine invariant_of moreCommits ?_ ?_ ?_ ?_ ?_
  · intro record isStored
    rw [present] at isStored
    exact ⟨commit, List.getLast?_concat, (Option.some.inj isStored).symm⟩
  · intro absent
    rw [present] at absent
    cases absent
  · exact phases_set invariant.phases (fun _ _ earlier => earlier.append follows)
      isAttempt phase
  · refine invariant.spaced.append (.singleton commit) ?_
    intro latest isLatest next isNext
    obtain rfl := Option.some.inj isNext
    exact follows.spaced latest isLatest
  · intro other member
    rcases List.mem_append.mp member with earlier | new
    · exact invariant.notPast other earlier
    · rw [List.mem_singleton.mp new]
      exact follows.notPast

theorem phase_conclude_error {committed : List Commit} (now plannedAt : Int64)
    (previous : Option ScheduleRecord) (error : StoreError) :
    Phase key attempt committed
      (Handling.conclude key now plannedAt previous (.error error)) := by
  by_cases conflict : error.Conflict
  · rw [Handling.conclude, Handling.outcomeOf_conflict conflict]
    refine .written _ _ ?_
    intro decision isOk isCommitted
    obtain rfl := Except.ok.inj isOk
    cases isCommitted
  · rw [Handling.conclude, Handling.outcomeOf_other conflict]
    exact .finished _ (recorded_error attempt committed _)

theorem phase_conclude_ok {committed : List Commit} {plannedAt : Int64}
    (recorded : ⟨attempt, plannedAt⟩ ∈ committed) (previous : Option ScheduleRecord) :
    Phase key attempt committed
      (Handling.conclude key attempt.now plannedAt previous (.ok ())) := by
  refine .written _ _ ?_
  intro decision isOk _
  obtain rfl := Except.ok.inj isOk
  exact recorded

variable {surroundings}

/-- The read of an attempt: what it gives is the record of the latest commit. -/
theorem invariant_read (invariant : Invariant key attempts race)
    (isAttempt : attempts[index]? = some attempt)
    (advanced : (Handling.attempt key attempt.threshold attempt.now).advance
      surroundings.respond race.state = some (event, remaining, site)) :
    Invariant key attempts
      { parties := race.parties.set index remaining
        state := site
        history := race.history ++ [.event index event] } := by
  rw [Handling.attempt_eq] at advanced
  obtain ⟨rfl, rfl, rfl⟩ := Dialogue.advance_ask advanced
  obtain ⟨answer, untouched⟩ := surroundings.respond_read key race.state
  refine invariant_quiet invariant (commit?_event isAttempt _) untouched isAttempt ?_
  rcases answer with ⟨error, failed⟩ | answered
  · rw [failed]
    exact .finished _ (recorded_error attempt _ _)
  · rw [answered]
    refine .read _ ?_
    intro record isStored
    obtain ⟨latest, isLatest, same⟩ := invariant.stored record isStored
    refine ⟨?_, latest, isLatest, .inl same⟩
    rw [same]
    exact ScheduleRecord.isPlanned_planned key latest.plannedAt
      latest.attempt.threshold

/-- The creation of an attempt that has read nothing.  When it is acknowledged,
the latest record has been reaped, and in time. -/
theorem invariant_create (invariant : Invariant key attempts race)
    (isAttempt : attempts[index]? = some attempt)
    (advanced : (Handling.proceed key attempt.threshold attempt.now none).advance
      surroundings.respond race.state = some (event, remaining, site))
    (inTime : Handling.isWrite event = true → ∀ now,
      Occurrence.outside now ∈ race.history → now ≤ attempt.now) :
    Invariant key attempts
      { parties := race.parties.set index remaining
        state := site
        history := race.history ++ [.event index event] } := by
  rw [Handling.proceed_none] at advanced
  obtain ⟨rfl, rfl, rfl⟩ := Dialogue.advance_ask advanced
  rcases surroundings.respond_create
      (ScheduleRecord.planned key attempt.now attempt.threshold) race.state with
    ⟨⟨error, failed⟩, untouched⟩ | ⟨acknowledged, absent, filed⟩
  · rw [failed]
    exact invariant_quiet invariant (commit?_event isAttempt _) untouched isAttempt
      (phase_conclude_error _ _ _ error)
  · rw [acknowledged]
    have past : ∀ latest, (commits attempts race.history).getLast? = some latest →
        (latest.record key).expiresAt < attempt.now := by
      intro latest isLatest
      obtain ⟨now, happened, behind⟩ := invariant.reaped absent latest isLatest
      exact Int64.lt_of_lt_of_le behind (inTime rfl now happened)
    refine invariant_commit ⟨attempt, attempt.now⟩ invariant
      (commit?_event isAttempt _) filed (follows_of_create past) isAttempt
      (phase_conclude_ok ?_ _)
    exact List.mem_append_right _ (List.mem_singleton.mpr rfl)

/-- The update of an attempt that has read a record.  When it is acknowledged,
the time of the latest commit is the time that was read. -/
theorem invariant_update (invariant : Invariant key attempts race)
    (isAttempt : attempts[index]? = some attempt) {record : ScheduleRecord}
    (known : Known key (commits attempts race.history) record)
    (advanced : (Handling.proceed key attempt.threshold attempt.now
      (some record)).advance surroundings.respond race.state =
        some (event, remaining, site)) :
    Invariant key attempts
      { parties := race.parties.set index remaining
        state := site
        history := race.history ++ [.event index event] } := by
  rw [Handling.proceed_some] at advanced
  obtain ⟨rfl, rfl, rfl⟩ := Dialogue.advance_ask advanced
  rcases surroundings.respond_update key record.lastExecutedAt
      (ScheduleRecord.planned key (plan (some record) attempt.threshold attempt.now)
        attempt.threshold) race.state with
    ⟨⟨error, failed⟩, untouched⟩ | ⟨acknowledged, found, filed⟩
  · rw [failed]
    exact invariant_quiet invariant (commit?_event isAttempt _) untouched isAttempt
      (phase_conclude_error _ _ _ error)
  · rw [acknowledged]
    have time : ∀ latest, (commits attempts race.history).getLast? = some latest →
        latest.plannedAt = record.lastExecutedAt := by
      intro latest isLatest
      obtain ⟨current, isStored, same⟩ := Option.map_eq_some_iff.mp found
      obtain ⟨other, isOther, isRecord⟩ := invariant.stored current isStored
      obtain rfl : latest = other := Option.some.inj (isLatest.symm.trans isOther)
      rw [← same, isRecord]
      rfl
    refine invariant_commit
      ⟨attempt, plan (some record) attempt.threshold attempt.now⟩ invariant
      (commit?_event isAttempt _) filed (follows_of_update known time) isAttempt
      (phase_conclude_ok ?_ _)
    exact List.mem_append_right _ (List.mem_singleton.mpr rfl)

end Move

/-- Every move of a race keeps the invariant, if it keeps reapings in time. -/
theorem invariant_move {attempts : List Attempt} (race : Race World)
    (next : Move Int64)
    (inTime : ReapedInTime attempts
      (race.move (fun _ => surroundings.respond) Site.reap next).history)
    (invariant : Invariant key attempts race) :
    Invariant key attempts
      (race.move (fun _ => surroundings.respond) Site.reap next) := by
  cases next with
  | outside now => exact invariant_reap invariant now
  | party index =>
      rw [Interleaving.move] at inTime ⊢
      rcases race.advance_cases (fun _ => surroundings.respond) index with
        unchanged | ⟨party, event, remaining, site, present, advanced, outcome⟩
      · rw [unchanged]
        exact invariant
      · rw [outcome] at inTime ⊢
        obtain ⟨attempt, isAttempt, phase⟩ := invariant.phases index party present
        cases phase with
        | unread => exact invariant_read invariant isAttempt advanced
        | read previous known =>
            have clocked : Handling.isWrite event = true → ∀ now,
                Occurrence.outside now ∈ race.history → now ≤ attempt.now := by
              intro write now happened
              exact (List.pairwise_append.mp inTime).2.2 _ happened _
                (List.mem_singleton.mpr rfl) write attempt isAttempt
            cases previous with
            | none => exact invariant_create invariant isAttempt advanced clocked
            | some record =>
                exact invariant_update invariant isAttempt (known record rfl) advanced
        | written note result recorded =>
            obtain ⟨rfl, rfl, rfl⟩ := Dialogue.advance_tell advanced
            exact invariant_quiet invariant (commit?_event isAttempt _) rfl isAttempt
              (.finished result recorded)
        | finished result recorded => cases advanced

theorem invariant_race (world : World) (attempts : List Attempt)
    (moves : List (Move Int64))
    (inTime : ReapedInTime attempts
      (race surroundings key world attempts moves).history) :
    Invariant key attempts (race surroundings key world attempts moves) :=
  Interleaving.run_preserves (fun _ => surroundings.respond) Site.reap
    (ReapedInTime attempts)
    (fun _ _ whole => (List.pairwise_append.mp whole).1)
    (fun race next inTime invariant =>
      invariant_move surroundings race next inTime invariant)
    (invariant_starting world attempts) moves inTime

/-! ## The commits of a race -/

theorem attempt_mem_of_mem_commits {attempts : List Attempt} {history : History}
    {commit : Commit} (member : commit ∈ commits attempts history) :
    commit.attempt ∈ attempts := by
  obtain ⟨occurrence, _, isCommit⟩ := List.mem_filterMap.mp member
  cases occurrence with
  | outside now => cases isCommit
  | event index event =>
      obtain ⟨attempt, isAttempt, written⟩ := Option.bind_eq_some_iff.mp isCommit
      obtain ⟨record, _, rfl⟩ := Option.map_eq_some_iff.mp written
      exact List.mem_of_getElem? isAttempt

/-- The commits of a race whose reapings are in time, whatever the order of the
moves: their times never decrease, no time is in the past of its own attempt,
and each follows the one before it at the distance of the smaller threshold,
the common one if there is one, as far as the word reaches.  The time of every
decision to commit is one of theirs. -/
theorem commits_spaced (world : World) (attempts : List Attempt)
    (moves : List (Move Int64))
    (inTime : ReapedInTime attempts
      (race surroundings key world attempts moves).history) :
    let outcome := race surroundings key world attempts moves
    let committed := commits attempts outcome.history
    (committed.map Commit.plannedAt).Pairwise (· ≤ ·) ∧
    (∀ commit ∈ committed, commit.attempt.now ≤ commit.plannedAt) ∧
    committed.IsChain Spaced ∧
    (∀ threshold, (∀ attempt ∈ attempts, attempt.threshold = threshold) →
      committed.IsChain fun (earlier later : Commit) =>
        earlier.plannedAt.toInt + min threshold.toNat 0x7FFFFFFFFFFFFFFF ≤
            later.plannedAt.toInt ∨
          later.plannedAt = Int64.maxValue) ∧
    (∀ index decision, outcome.result? index = some (.ok decision) →
      decision.outcome = .committed →
        ∃ attempt, attempts[index]? = some attempt ∧
          ⟨attempt, decision.plannedAt⟩ ∈ committed) := by
  intro outcome committed
  have invariant : Invariant key attempts outcome :=
    invariant_race surroundings world attempts moves inTime
  refine ⟨?_, invariant.notPast, invariant.spaced, ?_, ?_⟩
  · have rising : committed.IsChain fun earlier later =>
        earlier.plannedAt ≤ later.plannedAt :=
      invariant.spaced.imp fun _ _ spaced => spaced.le
    have transitive : Trans (fun earlier later : Int64 => earlier ≤ later)
        (fun earlier later => earlier ≤ later) (fun earlier later => earlier ≤ later) :=
      ⟨Int64.le_trans⟩
    exact (List.isChain_map Commit.plannedAt |>.mpr rising).pairwise
  · intro threshold common
    refine invariant.spaced.imp_of_mem_imp ?_
    intro earlier later isEarlier isLater spaced
    have earlierThreshold := common _ (attempt_mem_of_mem_commits isEarlier)
    have laterThreshold := common _ (attempt_mem_of_mem_commits isLater)
    have fits := later.plannedAt.toInt_lt
    rw [Spaced, Seconds.windowEnd_min, earlierThreshold, laterThreshold,
      Seconds.toInt_window] at spaced
    by_cases last : later.plannedAt.toInt = 0x7FFFFFFFFFFFFFFF
    · exact .inr (Int64.toInt.inj last)
    · left
      omega
  · intro index decision isResult isCommitted
    unfold Interleaving.result? at isResult
    split at isResult
    · next result present =>
        obtain ⟨attempt, isAttempt, phase⟩ := invariant.phases index _ present
        exact ⟨attempt, isAttempt,
          phase.recorded rfl decision (Option.some.inj isResult) isCommitted⟩
    · cases isResult

/-- Two attempts read the empty store before either writes; the second one loses
its write.  A third one reads the record of the first, is overtaken by a
reaping, and loses its write as well; a fourth one starts anew behind it, and a
fifth one is planned for the end of its window. -/
theorem commits_spaced_around_reaping :
    let attempts : List Attempt :=
      [⟨60, 100⟩, ⟨30, 90⟩, ⟨60, 170⟩, ⟨60, 165⟩, ⟨60, 170⟩]
    let moves : List (Move Int64) :=
      [.party 0, .party 1, .party 0, .party 1, .party 2, .outside 161, .party 2,
        .party 3, .party 3, .party 4, .party 4]
    let outcome := race (Surroundings.steady 0) ⟨"account-region"⟩ () attempts moves
    ReapedInTime attempts outcome.history ∧
      commits attempts outcome.history =
        [⟨⟨60, 100⟩, 100⟩, ⟨⟨60, 165⟩, 165⟩, ⟨⟨60, 170⟩, 225⟩] ∧
      (commits attempts outcome.history).IsChain Spaced := by
  intro attempts moves outcome
  have inTime : ReapedInTime attempts outcome.history := by
    unfold ReapedInTime
    decide +kernel
  refine ⟨inTime, by decide +kernel, ?_⟩
  exact (commits_spaced (Surroundings.steady 0) () attempts moves inTime).2.2.1

end Pacing.Spacing
