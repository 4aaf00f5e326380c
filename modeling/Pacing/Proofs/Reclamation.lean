import Mathlib.Data.List.Forall2
import Pacing.Proofs.Faultless

/-!
# Reclamation of expired records

Attempts at any scopes, one after the other, and reapings in between.  Whether
expired records are reaped or left where they are does not show: an expired record
plans as no record does, so every attempt commits the same time either way.  What
differs is how it is written, since a record that is still there is replaced where
a new one would be created, and what the attempt reports to have read.
-/

namespace Pacing.Reclamation

open Handling
open ScheduleRecord (time?)

inductive Step where
  | attempt (key : ScopeKey) (threshold : UInt64) (now : Int64)
  | reap (now : Int64)
  deriving DecidableEq, Repr

def Step.isAttempt : Step → Bool
  | .attempt .. => true
  | .reap _ => false

/-- No attempt behind a reaping has a clock that is behind it. -/
def InTime : Step → Step → Prop
  | .reap reaped, .attempt _ _ now => reaped ≤ now
  | _, _ => True

instance (earlier later : Step) : Decidable (InTime earlier later) :=
  match earlier, later with
  | .reap _, .attempt .. => inferInstanceAs (Decidable (_ ≤ _))
  | .reap _, .reap _ => .isTrue trivial
  | .attempt .., _ => .isTrue trivial

variable {World : Type}

/-- Takes steps one after the other.  Each attempt comes to its end before the next
step; what they end with is listed in their order. -/
def perform (surroundings : Surroundings World) :
    List Step → Site World → List (Except SchedulerError Decision) × Site World
  | [], site => ([], site)
  | .attempt key threshold now :: steps, site =>
    let ended := (Handling.attempt key threshold now).run surroundings.respond site
    let behind := perform surroundings steps ended.state
    (ended.result :: behind.1, behind.2)
  | .reap now :: steps, site => perform surroundings steps (site.reap now)

def SameCommit (ended other : Except SchedulerError Decision) : Prop :=
  ∃ plannedAt previous reread,
    ended = .ok ⟨plannedAt, .committed, previous⟩ ∧
      other = .ok ⟨plannedAt, .committed, reread⟩

/-- A record is missing only if it has expired at the time of some reaping. -/
def Reclaimed (Reaped : Int64 → Prop) (store full : Store) : Prop :=
  ∀ key, store.get? key = full.get? key ∨
    store.get? key = none ∧ ∃ record, full.get? key = some record ∧
      ∃ reaped, Reaped reaped ∧ record.expiresAt < reaped

/-- No clock of an attempt that is left is behind a reaping. -/
def Due (Reaped : Int64 → Prop) (steps : List Step) : Prop :=
  ∀ reaped, Reaped reaped → ∀ key threshold now,
    .attempt key threshold now ∈ steps → reaped ≤ now

/-! ## Steps -/

section Steps

variable {Reaped : Int64 → Prop} {store full : Store}

theorem Reclaimed.refl (store : Store) : Reclaimed Reaped store store :=
  fun _ => .inl rfl

theorem Reclaimed.mono {Greater : Int64 → Prop} (reclaimed : Reclaimed Reaped store full)
    (more : ∀ reaped, Reaped reaped → Greater reaped) : Reclaimed Greater store full := by
  intro key
  rcases reclaimed key with same | ⟨absent, record, isThere, reaped, isReaped, expired⟩
  · exact .inl same
  · exact .inr ⟨absent, record, isThere, reaped, more reaped isReaped, expired⟩

theorem Reclaimed.reap (reclaimed : Reclaimed Reaped store full) {now : Int64}
    (isReaped : Reaped now) : Reclaimed Reaped (store.reap now) full := by
  intro key
  rw [Store.get?_reap]
  rcases reclaimed key with same | ⟨absent, missing⟩
  · rw [same]
    cases stored : full.get? key with
    | none => exact .inl rfl
    | some record =>
        cases expired : record.isExpired now with
        | false =>
            left
            simp [expired]
        | true =>
            have before := (record.isExpired_eq_true now).mp expired
            refine .inr ⟨?_, record, rfl, now, isReaped, before⟩
            simp [before]
  · right
    rw [absent]
    exact ⟨rfl, missing⟩

theorem Reclaimed.put (reclaimed : Reclaimed Reaped store full) (key : ScopeKey)
    (record : ScheduleRecord) :
    Reclaimed Reaped (store.put key record) (full.put key record) := by
  intro other
  rw [Store.get?_put, Store.get?_put]
  by_cases own : key = other
  · left
    rw [if_pos own, if_pos own]
  · rw [if_neg own, if_neg own]
    exact reclaimed other

theorem Reclaimed.plan_eq (reclaimed : Reclaimed Reaped store full) {now : Int64}
    (due : ∀ reaped, Reaped reaped → reaped ≤ now) (key : ScopeKey) (threshold : UInt64) :
    plan (store.get? key) threshold now = plan (full.get? key) threshold now := by
  rcases reclaimed key with same | ⟨absent, record, isThere, reaped, isReaped, before⟩
  · rw [same]
  · have expired : record.isExpired now = true := by
      rw [record.isExpired_eq_true]
      exact Int64.lt_of_lt_of_le before (due reaped isReaped)
    rw [absent, isThere, plan_none, plan_of_expired expired]

/-- An attempt that nobody gets in the way of commits what it plans. -/
theorem run_attempt (reply : (query : Query) → World → query.Reply × World)
    (key : ScopeKey) (threshold : UInt64) (now : Int64) (site : Site World) :
    let plannedAt := plan (site.store.get? key) threshold now
    let ended := (attempt key threshold now).run (Surroundings.faultless reply).respond site
    ended.result = .ok ⟨plannedAt, .committed, time? (site.store.get? key)⟩ ∧
      ended.state.store =
        site.store.put key (ScheduleRecord.planned key plannedAt threshold) := by
  intro plannedAt ended
  let behindRead : Site World := ⟨site.store, (reply (.read key) site.world).2⟩
  have read : (attempt key threshold now).advance
      (Surroundings.faultless reply).respond site =
    some (.exchange (.read key) (.ok (site.store.get? key)),
      proceed key threshold now (site.store.get? key), behindRead) := by
    rw [attempt_eq]
    rfl
  obtain ⟨written, behind, wrote, answers⟩ := Surroundings.faultless_proceed reply key
    threshold now (site.store.get? key) behindRead
  have result := (Dialogue.run_of_advance read).1.trans (Dialogue.run_of_advance wrote).1
  have state := (Dialogue.run_of_advance read).2.trans (Dialogue.run_of_advance wrote).2
  generalize isStore : behind.store = store at answers
  cases answers with
  | granted unchanged =>
      refine ⟨result, ?_⟩
      rw [← isStore]
      exact congrArg Site.store state
  | lost conflict changed => exact absurd rfl changed

/-- One attempt at either of two stores, one of which lacks what was reclaimed. -/
theorem Reclaimed.attempt (reply : (query : Query) → World → query.Reply × World)
    {site other : Site World} (reclaimed : Reclaimed Reaped site.store other.store)
    {now : Int64} (due : ∀ reaped, Reaped reaped → reaped ≤ now) (key : ScopeKey)
    (threshold : UInt64) :
    let attempted := Handling.attempt key threshold now
    let ended := attempted.run (Surroundings.faultless reply).respond site
    let otherEnded := attempted.run (Surroundings.faultless reply).respond other
    SameCommit ended.result otherEnded.result ∧
      Reclaimed Reaped ended.state.store otherEnded.state.store := by
  intro attempted ended otherEnded
  obtain ⟨result, state⟩ := run_attempt reply key threshold now site
  obtain ⟨otherResult, otherState⟩ := run_attempt reply key threshold now other
  -- The plans agree, and so both stores end up with the same record under the key.
  rw [reclaimed.plan_eq due key threshold] at result state
  constructor
  · exact ⟨_, _, _, result, otherResult⟩
  · rw [state, otherState]
    exact reclaimed.put key _

/-! ## Runs -/

theorem Due.tail {step : Step} {steps : List Step} (due : Due Reaped (step :: steps)) :
    Due Reaped steps := by
  intro reaped isReaped key threshold now member
  exact due reaped isReaped key threshold now (List.mem_cons_of_mem _ member)

/-- What is missing at first, and what is reaped on the way, shows in no commit. -/
theorem perform_reclaimed (reply : (query : Query) → World → query.Reply × World)
    (steps : List Step) {site other : Site World}
    (reclaimed : Reclaimed Reaped site.store other.store)
    (inTime : steps.Pairwise InTime) (due : Due Reaped steps) :
    let outcome := perform (Surroundings.faultless reply) steps site
    let unreaped := perform (Surroundings.faultless reply)
      (steps.filter Step.isAttempt) other
    List.Forall₂ SameCommit outcome.1 unreaped.1 ∧
      Reclaimed (fun reaped => Reaped reaped ∨ .reap reaped ∈ steps)
        outcome.2.store unreaped.2.store := by
  induction steps generalizing Reaped site other with
  | nil => exact ⟨.nil, reclaimed.mono fun reaped isReaped => .inl isReaped⟩
  | cons step steps induction =>
      obtain ⟨first, rest⟩ := List.pairwise_cons.mp inTime
      cases step with
      | attempt key threshold now =>
          rw [List.filter_cons_of_pos rfl]
          have dueNow : ∀ reaped, Reaped reaped → reaped ≤ now := by
            intro reaped isReaped
            exact due reaped isReaped key threshold now List.mem_cons_self
          obtain ⟨commit, behind⟩ := reclaimed.attempt reply dueNow key threshold
          obtain ⟨commits, stores⟩ := induction behind rest due.tail
          refine ⟨.cons commit commits, stores.mono ?_⟩
          rintro reaped (before | now)
          · exact .inl before
          · exact .inr (List.mem_cons_of_mem _ now)
      | reap now =>
          rw [List.filter_cons_of_neg (by simp [Step.isAttempt])]
          have behind : Reclaimed (fun reaped => Reaped reaped ∨ reaped = now)
              (site.reap now).store other.store := by
            apply Reclaimed.reap ?_ (.inr rfl)
            exact reclaimed.mono fun reaped isReaped => .inl isReaped
          have dueBehind : Due (fun reaped => Reaped reaped ∨ reaped = now) steps := by
            rintro reaped (before | rfl) key threshold now member
            · exact due.tail reaped before key threshold now member
            · exact first _ member
          obtain ⟨commits, stores⟩ := induction behind rest dueBehind
          refine ⟨commits, stores.mono ?_⟩
          rintro reaped ((before | rfl) | later)
          · exact .inl before
          · exact .inr List.mem_cons_self
          · exact .inr (List.mem_cons_of_mem _ later)

end Steps

/-- Reapings that are in time for the attempts behind them do not show.  With them
and without them every attempt commits, at the same time; what is stored in the end
with them is stored without them as well; and what is stored without them only has
expired at the time of a reaping. -/
theorem reaping_unobservable (reply : (query : Query) → World → query.Reply × World)
    (site : Site World) (steps : List Step) (inTime : steps.Pairwise InTime) :
    let outcome := perform (Surroundings.faultless reply) steps site
    let unreaped := perform (Surroundings.faultless reply)
      (steps.filter Step.isAttempt) site
    List.Forall₂ SameCommit outcome.1 unreaped.1 ∧
      (∀ key record, outcome.2.store.get? key = some record →
        unreaped.2.store.get? key = some record) ∧
      (∀ key record, outcome.2.store.get? key = none →
        unreaped.2.store.get? key = some record →
          ∃ reaped, .reap reaped ∈ steps ∧ record.expiresAt < reaped) := by
  intro outcome unreaped
  have complete : Reclaimed (fun _ => False) site.store site.store := .refl site.store
  obtain ⟨commits, reclaimed⟩ :=
    perform_reclaimed reply steps complete inTime fun _ => False.elim
  refine ⟨commits, ?_, ?_⟩
  · intro key record stored
    rcases reclaimed key with same | ⟨absent, -⟩
    · exact same.symm.trans stored
    · cases absent.symm.trans stored
  · intro key record absent stored
    rcases reclaimed key with same | ⟨-, missing, isThere, reaped, isReaped, expired⟩
    · cases (absent.symm.trans same).trans stored
    · cases isThere.symm.trans stored
      rcases isReaped with never | happened
      · exact never.elim
      · exact ⟨reaped, happened, expired⟩

/-- A record that has expired is reaped before the last attempt, and one that
expires in this very second is not. -/
theorem reaping_unobservable_at_expiry :
    let reply := (Surroundings.steady 0).reply
    let first : ScopeKey := ⟨"first"⟩
    let second : ScopeKey := ⟨"second"⟩
    let steps : List Step :=
      [.attempt first 60 1000, .attempt second 60 1010, .reap 1070,
        .attempt second 60 1070]
    let outcome := perform (Surroundings.faultless reply) steps ⟨Store.empty, ()⟩
    let unreaped := perform (Surroundings.faultless reply)
      (steps.filter Step.isAttempt) ⟨Store.empty, ()⟩
    steps.Pairwise InTime ∧
      List.Forall₂ SameCommit outcome.1 unreaped.1 ∧
      outcome.2.store.get? second = some (ScheduleRecord.planned second 1070 60) ∧
      unreaped.2.store.get? second = some (ScheduleRecord.planned second 1070 60) ∧
      outcome.2.store.get? first = none ∧
      unreaped.2.store.get? first = some (ScheduleRecord.planned first 1000 60) := by
  intro reply first second steps outcome unreaped
  have inTime : steps.Pairwise InTime := by decide
  obtain ⟨commits, kept, -⟩ := reaping_unobservable reply ⟨Store.empty, ()⟩ steps inTime
  have stored : outcome.2.store.get? second =
      some (ScheduleRecord.planned second 1070 60) := by decide +kernel
  exact ⟨inTime, commits, stored, kept second _ stored, by decide +kernel,
    by decide +kernel⟩

end Pacing.Reclamation
