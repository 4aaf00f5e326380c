import Pacing.Handling.Commit
import Pacing.Proofs.Attempt
import Pacing.Proofs.Backoff
import Pacing.Proofs.Transcript
import Pacing.Proofs.Yields

/-!
# The calls of a commit

A commit is a sequence of attempts.  Each of them reads the clock and the store
anew and asks for at most one write, of the record that this reading and this
read lead to.  All but the last have lost to another writer and end in a pause;
how the last one ends is the result of the commit.
-/

namespace Pacing.Retrying

open Handling

variable {key : ScopeKey} {threshold : UInt64} {now : Int64} {terms : Terms}
  {transcript : List Event}

/-- The failure of a request for which an error of the store is to blame. -/
inductive Blamed : StoreError → SchedulerError → Prop where
  | corrupt (reason : String) : Blamed (.invalidRecord reason) (.corruptRecord reason)
  | unavailable (error : StoreError)
      (wellFormed : ∀ reason, error ≠ .invalidRecord reason) :
      Blamed error (.storeUnavailable error)

theorem blamed_ofStore (error : StoreError) : Blamed error (.ofStore error) := by
  cases error with
  | invalidRecord reason => exact .corrupt reason
  | alreadyExists scope => exact .unavailable _ (fun _ => nofun)
  | conditionFailed scope => exact .unavailable _ (fun _ => nofun)
  | unavailable reason => exact .unavailable _ (fun _ => nofun)

/-! ## One attempt -/

/-- The write of an attempt, and its answer: where nothing was read the planned
record is created, and what was read is replaced by it. -/
def writeCall (key : ScopeKey) (threshold : UInt64) (now : Int64)
    (previous : Option ScheduleRecord) (written : Except StoreError Unit) : Event :=
  let record := ScheduleRecord.planned key (plan previous threshold now) threshold
  match previous with
  | none => .exchange (.create record) written
  | some current => .exchange (.update key current.lastExecutedAt record) written

def attemptCalls (key : ScopeKey) (threshold : UInt64) (now : Int64)
    (previous : Option ScheduleRecord) (written : Except StoreError Unit) :
    List Event :=
  [.exchange .now now, .exchange (.read key) (.ok previous),
    writeCall key threshold now previous written]

theorem conclude_yields {plannedAt : Int64} {previous : Option ScheduleRecord}
    {written : Except StoreError Unit} {ended : Except SchedulerError Decision}
    (yields : (conclude key now plannedAt previous written).Yields transcript ended) :
    calls transcript = [] ∧
      ended = (outcomeOf written).map fun outcome =>
        ⟨plannedAt, outcome, previous.map ScheduleRecord.lastExecutedAt⟩ := by
  unfold conclude at yields
  cases outcome : outcomeOf written with
  | error error =>
      rw [outcome] at yields
      obtain ⟨rfl, rfl⟩ := yields.done_cases
      exact ⟨rfl, rfl⟩
  | ok outcome =>
      simp only [outcome] at yields
      obtain ⟨rest, rfl, behind⟩ := yields.tell_cases
      obtain ⟨rfl, rfl⟩ := behind.done_cases
      exact ⟨rfl, rfl⟩

theorem proceed_yields {previous : Option ScheduleRecord}
    {ended : Except SchedulerError Decision}
    (yields : (proceed key threshold now previous).Yields transcript ended) :
    ∃ written, calls transcript = [writeCall key threshold now previous written] ∧
      ended = (outcomeOf written).map fun outcome =>
        ⟨plan previous threshold now, outcome,
          previous.map ScheduleRecord.lastExecutedAt⟩ := by
  cases previous with
  | none =>
      rw [proceed_none] at yields
      obtain ⟨written, rest, rfl, behind⟩ := yields.ask_cases
      obtain ⟨silent, rfl⟩ := conclude_yields behind
      exact ⟨written, congrArg (List.cons _) silent, rfl⟩
  | some record =>
      rw [proceed_some] at yields
      obtain ⟨written, rest, rfl, behind⟩ := yields.ask_cases
      obtain ⟨silent, rfl⟩ := conclude_yields behind
      exact ⟨written, congrArg (List.cons _) silent, rfl⟩

/-- An attempt reads, and fails with the read or asks for its write. -/
theorem attempt_yields {ended : Except SchedulerError Decision}
    (yields : (attempt key threshold now).Yields transcript ended) :
    (∃ error, calls transcript = [.exchange (.read key) (.error error)] ∧
      ended = .error (.ofStore error)) ∨
    ∃ previous written,
      calls transcript = [.exchange (.read key) (.ok previous),
        writeCall key threshold now previous written] ∧
      ended = (outcomeOf written).map fun outcome =>
        ⟨plan previous threshold now, outcome,
          previous.map ScheduleRecord.lastExecutedAt⟩ := by
  rw [attempt_eq] at yields
  obtain ⟨answer, rest, rfl, behind⟩ := yields.ask_cases
  cases answer with
  | error error =>
      obtain ⟨rfl, rfl⟩ := behind.done_cases
      exact .inl ⟨error, rfl, rfl⟩
  | ok previous =>
      obtain ⟨written, called, rfl⟩ := proceed_yields behind
      exact .inr ⟨previous, written, congrArg (List.cons _) called, rfl⟩

/-! ## Attempts in a row -/

/-- An attempt that has lost to another writer, and the pause behind it. -/
structure LostAttempt where
  now : Int64
  previous : Option ScheduleRecord
  rejection : StoreError
  conflict : rejection.Conflict
  pause : Span

def LostAttempt.calls (key : ScopeKey) (threshold : UInt64) (lost : LostAttempt) :
    List Event :=
  attemptCalls key threshold lost.now lost.previous (.error lost.rejection) ++
    [.exchange (.sleep lost.pause) ()]

/-- The calls of the last attempt, which has a number, and the result with which
it ends the commit. -/
inductive LastAttempt (terms : Terms) (key : ScopeKey) (number : Nat) :
    List Event → Except SchedulerError Slot → Prop where
  | committed (now : Int64) (previous : Option ScheduleRecord) :
      LastAttempt terms key number
        (attemptCalls key terms.waitThreshold now previous (.ok ()))
        (.ok ⟨plan previous terms.waitThreshold now, number⟩)
  | unread (now : Int64) {error : StoreError} {failure : SchedulerError}
      (blamed : Blamed error failure) :
      LastAttempt terms key number
        [.exchange .now now, .exchange (.read key) (.error error)] (.error failure)
  | unwritten (now : Int64) (previous : Option ScheduleRecord) {error : StoreError}
      {failure : SchedulerError} (other : ¬ error.Conflict)
      (blamed : Blamed error failure) :
      LastAttempt terms key number
        (attemptCalls key terms.waitThreshold now previous (.error error))
        (.error failure)
  | exhausted (now : Int64) (previous : Option ScheduleRecord) {error : StoreError}
      (conflict : error.Conflict) (final : number = terms.retry.maxAttempts.toNat) :
      LastAttempt terms key number
        (attemptCalls key terms.waitThreshold now previous (.error error))
        (.error (.retriesExhausted terms.retry.maxAttempts))

def settle (terms : Terms) (key : ScopeKey) (remaining number : Nat) :
    Except SchedulerError Decision → Handling (Except SchedulerError Slot)
  | .error error => .done (.error error)
  | .ok ⟨plannedAt, .committed, _⟩ => .done (.ok ⟨plannedAt, number⟩)
  | .ok ⟨_, .conflict, previous⟩ =>
    Dialogue.tell (.writeLost key number terms.retry.maxAttempts previous)
      (match remaining with
      | 0 => .done (.error (.retriesExhausted terms.retry.maxAttempts))
      | remaining + 1 =>
        (pause terms.retry number).bind fun _ =>
          commitFrom terms key (remaining + 1) (number + 1))

theorem commitFrom_succ (terms : Terms) (key : ScopeKey) (remaining number : Nat) :
    commitFrom terms key (remaining + 1) number =
      Dialogue.ask .now fun now =>
        (attempt key terms.waitThreshold now).bind
          (settle terms key remaining number) := by
  rw [commitFrom]
  refine congrArg (Dialogue.ask _) (funext fun now => ?_)
  show (attempt key terms.waitThreshold now).bind _ = _
  refine congrArg (Dialogue.bind _) (funext fun ended => ?_)
  rcases ended with error | ⟨plannedAt, outcome, previous⟩
  · rfl
  · cases outcome with
    | committed => rfl
    | conflict => cases remaining <;> rfl

theorem pause_yields {retry : RetryPolicy} {number : Nat} {result : Unit}
    (yields : (pause retry number).Yields transcript result) :
    ∃ pause, retry.Allows number pause ∧
      calls transcript = [.exchange (.sleep pause) ()] := by
  obtain ⟨draw, rest, rfl, behind⟩ := Dialogue.Yields.ask_cases yields
  obtain ⟨slept, others, rfl, end_⟩ := Dialogue.Yields.ask_cases behind
  obtain ⟨rfl, -⟩ := Dialogue.Yields.done_cases end_
  exact ⟨retry.backoff number draw, retry.backoff_allowed number draw, rfl⟩

/-- The first of some attempts is the last of all, or it has lost and others are
made behind a pause. -/
theorem commitFrom_succ_yields {remaining number : Nat}
    {result : Except SchedulerError Slot}
    (numbered : number + remaining = terms.retry.maxAttempts.toNat)
    (yields : (commitFrom terms key (remaining + 1) number).Yields transcript result) :
    LastAttempt terms key number (calls transcript) result ∨
    ∃ others lost rest, remaining = others + 1 ∧
      terms.retry.Allows number lost.pause ∧
      calls transcript = LostAttempt.calls key terms.waitThreshold lost ++ calls rest ∧
      (commitFrom terms key (others + 1) (number + 1)).Yields rest result := by
  rw [commitFrom_succ] at yields
  obtain ⟨now, behindClock, rfl, afterClock⟩ := yields.ask_cases
  obtain ⟨attempted, ended, behind, rfl, attempting, settling⟩ := afterClock.bind_cases
  have called : calls (.exchange .now now :: (attempted ++ behind)) =
      .exchange .now now :: (calls attempted ++ calls behind) :=
    congrArg (List.cons _) (calls_append attempted behind)
  rw [called]
  rcases attempt_yields attempting with ⟨error, reading, rfl⟩ |
    ⟨previous, written, reading, rfl⟩
  · obtain ⟨rfl, rfl⟩ := settling.done_cases
    rw [reading]
    exact .inl (.unread now (blamed_ofStore error))
  · rcases written with error | ⟨⟩
    · by_cases conflict : error.Conflict
      · rw [outcomeOf_conflict conflict] at settling
        obtain ⟨told, rfl, after⟩ := settling.tell_cases
        cases remaining with
        | zero =>
            obtain ⟨rfl, rfl⟩ := after.done_cases
            rw [reading]
            exact .inl (.exhausted now previous conflict numbered)
        | succ others =>
            obtain ⟨paused, _, rest, rfl, pausing, further⟩ := after.bind_cases
            obtain ⟨pause, allowed, slept⟩ := pause_yields pausing
            refine .inr ⟨others, ⟨now, previous, error, conflict, pause⟩, rest, rfl,
              allowed, ?_, further⟩
            rw [reading, calls_note, calls_append, slept]
            rfl
      · rw [outcomeOf_other conflict] at settling
        obtain ⟨rfl, rfl⟩ := settling.done_cases
        rw [reading]
        exact .inl (.unwritten now previous conflict (blamed_ofStore error))
    · obtain ⟨rfl, rfl⟩ := settling.done_cases
      rw [reading]
      exact .inl (.committed now previous)

/-- By induction on the attempts that remain, each with a number of its own. -/
theorem commitFrom_yields {remaining number : Nat}
    {result : Except SchedulerError Slot}
    (numbered : number + remaining = terms.retry.maxAttempts.toNat)
    (yields : (commitFrom terms key (remaining + 1) number).Yields transcript result) :
    ∃ (lost : List LostAttempt) (last : List Event),
      calls transcript =
        lost.flatMap (LostAttempt.calls key terms.waitThreshold) ++ last ∧
      lost.length ≤ remaining ∧
      (∀ index (within : index < lost.length),
        terms.retry.Allows (index + number) lost[index].pause) ∧
      LastAttempt terms key (lost.length + number) last result := by
  induction remaining generalizing number transcript with
  | zero =>
      rcases commitFrom_succ_yields numbered yields with last |
        ⟨others, lost, rest, impossible, -⟩
      · refine ⟨[], calls transcript, rfl, Nat.le_refl 0, nofun, ?_⟩
        simpa using last
      · cases impossible
  | succ remaining hypothesis =>
      rcases commitFrom_succ_yields numbered yields with last |
        ⟨others, first, rest, same, allowed, called, further⟩
      · refine ⟨[], calls transcript, rfl, Nat.zero_le _, nofun, ?_⟩
        simpa using last
      · cases same
        obtain ⟨lost, last, behind, few, pauses, ending⟩ :=
          hypothesis (by omega) further
        refine ⟨first :: lost, last, ?_, Nat.succ_le_succ few, ?_, ?_⟩
        · rw [called, behind, List.flatMap_cons, List.append_assoc]
        · intro index within
          cases index with
          | zero => simpa using allowed
          | succ index =>
              have later := pauses index (Nat.lt_of_succ_lt_succ within)
              rwa [show index + (number + 1) = index + 1 + number by omega] at later
        · rwa [show lost.length + (number + 1) = (first :: lost).length + number by
            rw [List.length_cons]
            omega] at ending

theorem commit_yields {result : Except SchedulerError Slot}
    (allowed : 0 < terms.retry.maxAttempts.toNat)
    (yields : (commit terms key).Yields transcript result) :
    ∃ (lost : List LostAttempt) (last : List Event),
      calls transcript =
        lost.flatMap (LostAttempt.calls key terms.waitThreshold) ++ last ∧
      lost.length < terms.retry.maxAttempts.toNat ∧
      (∀ index (within : index < lost.length),
        terms.retry.Allows (index + 1) lost[index].pause) ∧
      LastAttempt terms key (lost.length + 1) last result := by
  obtain ⟨others, equal⟩ := Nat.exists_eq_succ_of_ne_zero (Nat.ne_of_gt allowed)
  unfold commit at yields
  rw [equal] at yields
  obtain ⟨lost, last, called, few, pauses, ending⟩ :=
    commitFrom_yields (by omega) yields
  exact ⟨lost, last, called, by omega, pauses, ending⟩

/-- A commit under any policy, even one that allows nothing. -/
theorem commit_cases {result : Except SchedulerError Slot}
    (yields : (commit terms key).Yields transcript result) :
    (transcript = [] ∧ result = .error (.retriesExhausted terms.retry.maxAttempts)) ∨
    ∃ (lost : List LostAttempt) (last : List Event) (number : Nat),
      calls transcript =
        lost.flatMap (LostAttempt.calls key terms.waitThreshold) ++ last ∧
      LastAttempt terms key number last result := by
  rcases Nat.eq_zero_or_pos terms.retry.maxAttempts.toNat with none | allowed
  · unfold commit at yields
    rw [none] at yields
    exact .inl yields.done_cases
  · obtain ⟨lost, last, called, -, -, ending⟩ := commit_yields allowed yields
    exact .inr ⟨lost, last, lost.length + 1, called, ending⟩

/-- Every commit makes at most as many attempts as the policy allows.  Its calls
are those of attempts that have lost, each one from a reading of its own and
before a pause that the policy allows, and then those of the last attempt, whose
end is the result.  The pause behind a lost attempt is at least half of a ceiling
that starts with the base delay, doubles with each one before it and ends with the
maximum, and it is at most that ceiling. -/
theorem commit_calls {State : Type}
    (respond : (query : Query) → State → query.Reply × State) (state : State)
    (key : ScopeKey) (threshold : UInt64) (records : Bool)
    (attempts : UInt32) (base longest : Span) :
    let terms : Terms := ⟨threshold, .of attempts base longest, records⟩
    let run := (commit terms key).run respond state
    ∃ (lost : List LostAttempt) (last : List Event),
      calls run.transcript = lost.flatMap (LostAttempt.calls key threshold) ++ last ∧
      lost.length < terms.retry.maxAttempts.toNat ∧
      (∀ index (within : index < lost.length),
        let ceiling :=
          min (base.toNanos * 2 ^ min index 16) (max base.toNanos longest.toNanos)
        terms.retry.Allows (index + 1) lost[index].pause ∧
        ceiling / 2 ≤ lost[index].pause.toNanos ∧
        lost[index].pause.toNanos ≤ ceiling) ∧
      LastAttempt terms key (lost.length + 1) last run.result := by
  intro terms run
  have allowed : 0 < terms.retry.maxAttempts.toNat :=
    RetryPolicy.maxAttempts_pos attempts base longest
  have yields : (commit terms key).Yields run.transcript run.result :=
    Dialogue.yields_run respond (commit terms key) state
  obtain ⟨lost, last, called, few, pauses, ending⟩ := commit_yields allowed yields
  refine ⟨lost, last, called, few, ?_, ending⟩
  intro index within ceiling
  have doublings : max (index + 1) 1 - 1 = index := by
    omega
  have bounds := (RetryPolicy.allows_iff attempts base longest (index + 1) _).mp
    (pauses index within)
  rw [doublings] at bounds
  exact ⟨pauses index within, bounds⟩

end Pacing.Retrying
