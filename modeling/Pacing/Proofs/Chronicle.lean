import Mathlib.Data.List.Induction
import Mathlib.Data.List.Nodup
import Mathlib.Data.List.Perm.Subperm
import Pacing.Proofs.Faultless
import Pacing.Proofs.Racing

/-!
# Lawful histories of a scope

What several parties do at one scope can be told from the history alone.  A
history is lawful when each of its occurrences may follow what was before it: a
read gives what is stored, and a write comes right behind the party's own read,
is of the record that this read leads to, and is granted if the stored time has
not changed in between.  A party is granted one write at most.

From this the main fact about lost writes follows by counting.  A write is lost
only if another party was granted one behind the read; these grants differ from
loss to loss, so nobody loses more writes than others are granted.
-/

namespace Pacing.Chronicle

open Handling
open Racing (History)
open ScheduleRecord (time?)

/-! ## What a history shows -/

/-- A write that was acknowledged, and the party that asked for it. -/
structure Grant where
  party : Nat
  record : ScheduleRecord
  deriving DecidableEq, Repr

def Grant.plannedAt (grant : Grant) : Int64 :=
  grant.record.lastExecutedAt

def grant? : Occurrence Query Query.Reply Note Int64 → Option Grant
  | .event party event => (written? event).map (Grant.mk party)
  | .outside _ => none

def grants (history : History) : List Grant :=
  history.filterMap grant?

/-- What is stored behind a history, for what was stored before it. -/
def stored (initial : Option ScheduleRecord) (history : History) :
    Option ScheduleRecord :=
  ((grants history).getLast?.map Grant.record).or initial

/-- Whether an event is a write that has lost to another writer. -/
def isLostWrite : Event → Bool
  | .exchange (.create _) (.error rejection) => rejection.isWriteConflict
  | .exchange (.update ..) (.error rejection) => rejection.isWriteConflict
  | _ => false

def isLossOf (party : Nat) : Occurrence Query Query.Reply Note Int64 → Bool
  | .event other event => other = party && isLostWrite event
  | .outside _ => false

def losses (party : Nat) (history : History) : Nat :=
  history.countP (isLossOf party)

def grantsToOthers (party : Nat) (history : History) : Nat :=
  (grants history).countP fun grant => grant.party ≠ party

/-- A party takes no part in a history. -/
def Absent (party : Nat) (history : History) : Prop :=
  ∀ event, Occurrence.event party event ∉ history

/-- The latest event of a party is a read, of what was stored then. -/
def Holds (key : ScopeKey) (initial : Option ScheduleRecord) (party : Nat)
    (previous : Option ScheduleRecord) (history : History) : Prop :=
  ∃ earlier later,
    history = earlier ++ .event party (.exchange (.read key) (.ok previous)) :: later ∧
    previous = stored initial earlier ∧ Absent party later

/-- Behind its latest event, a read, another party was granted a write. -/
def Overtaken (key : ScopeKey) (party : Nat) (history : History) : Prop :=
  ∃ earlier answer later,
    history = earlier ++ .event party (.exchange (.read key) answer) :: later ∧
    Absent party later ∧ ∃ grant ∈ grants later, grant.party ≠ party

def concernsStore : Event → Bool
  | .exchange query _ => query.concernsStore
  | .note _ => false

/-! ## Lawful histories -/

section Laws

variable (key : ScopeKey) (initial : Option ScheduleRecord)
  (Plans : Nat → UInt64 → Int64 → Prop)

/-- What may follow a history.  A party may plan under some thresholds, at some
times. -/
inductive Follows (history : History) :
    Occurrence Query Query.Reply Note Int64 → Prop where
  | aside {party : Nat} {event : Event} (elsewhere : concernsStore event = false) :
      Follows history (.event party event)
  | read (party : Nat) :
      Follows history
        (.event party (.exchange (.read key) (.ok (stored initial history))))
  | granted {party : Nat} {previous : Option ScheduleRecord} {threshold : UInt64}
      {now : Int64} (holds : Holds key initial party previous history)
      (plans : Plans party threshold now)
      (first : ∀ grant ∈ grants history, grant.party ≠ party)
      (unchanged : time? (stored initial history) = time? previous) :
      Follows history
        (.event party (Retrying.writeCall key threshold now previous (.ok ())))
  | lost {party : Nat} {previous : Option ScheduleRecord} {threshold : UInt64}
      {now : Int64} {rejection : StoreError}
      (holds : Holds key initial party previous history)
      (conflict : rejection.Conflict)
      (changed : time? (stored initial history) ≠ time? previous) :
      Follows history
        (.event party
          (Retrying.writeCall key threshold now previous (.error rejection)))

def Lawful (history : History) : Prop :=
  ∀ earlier occurrence later, history = earlier ++ occurrence :: later →
    Follows key initial Plans earlier occurrence

end Laws

/-! ## Histories that grow -/

theorem split_concat {α : Type} {list earlier later : List α} {last item : α}
    (same : list ++ [last] = earlier ++ item :: later) :
    (earlier = list ∧ item = last) ∨ ∃ rest, list = earlier ++ item :: rest := by
  rcases List.eq_nil_or_concat' later with rfl | ⟨rest, other, rfl⟩
  · obtain ⟨rfl, equal⟩ := List.append_inj' same rfl
    exact .inl ⟨rfl, (List.singleton_inj.mp equal).symm⟩
  · have shifted : list ++ [last] = (earlier ++ item :: rest) ++ [other] := by
      simpa using same
    exact .inr ⟨rest, (List.append_inj' shifted rfl).1⟩

theorem latest_unique {party : Nat} {event other : Event}
    {earlier later before behind : History}
    (same : earlier ++ .event party event :: later = before ++ .event party other :: behind)
    (absentLater : Absent party later) (absentBehind : Absent party behind) :
    earlier = before ∧ event = other := by
  rcases List.append_eq_append_iff.mp same with ⟨rest, rfl, split⟩ | ⟨rest, rfl, split⟩
  · cases rest with
    | nil =>
        cases split
        exact ⟨(List.append_nil _).symm, rfl⟩
    | cons occurrence rest =>
        obtain ⟨rfl, rfl⟩ := List.cons.inj split
        exact absurd (List.mem_append_right _ List.mem_cons_self) (absentLater other)
  · cases rest with
    | nil =>
        cases split
        exact ⟨List.append_nil _, rfl⟩
    | cons occurrence rest =>
        obtain ⟨rfl, rfl⟩ := List.cons.inj split
        exact absurd (List.mem_append_right _ List.mem_cons_self) (absentBehind event)

theorem grants_append (earlier later : History) :
    grants (earlier ++ later) = grants earlier ++ grants later :=
  List.filterMap_append

theorem stored_of_grants_eq_nil {initial : Option ScheduleRecord}
    {earlier later : History} (quiet : grants later = []) :
    stored initial (earlier ++ later) = stored initial earlier := by
  rw [stored, grants_append, quiet, List.append_nil, stored]

section Concat

variable {initial : Option ScheduleRecord} {history : History}
  {occurrence : Occurrence Query Query.Reply Note Int64} {grant : Grant}

theorem grants_concat_of_none (quiet : grant? occurrence = none) :
    grants (history ++ [occurrence]) = grants history := by
  simp [grants, quiet]

theorem grants_concat_of_some (granted : grant? occurrence = some grant) :
    grants (history ++ [occurrence]) = grants history ++ [grant] := by
  simp [grants, granted]

theorem stored_concat_of_none (quiet : grant? occurrence = none) :
    stored initial (history ++ [occurrence]) = stored initial history := by
  rw [stored, grants_concat_of_none quiet, stored]

theorem stored_concat_of_some (granted : grant? occurrence = some grant) :
    stored initial (history ++ [occurrence]) = some grant.record := by
  rw [stored, grants_concat_of_some granted, List.getLast?_concat]
  rfl

end Concat

/-- What is stored where nothing was at first has been granted to somebody. -/
theorem stored_mem_grants {history : History} {record : ScheduleRecord}
    (isStored : stored none history = some record) :
    record ∈ (grants history).map Grant.record := by
  rw [stored, Option.or_none, Option.map_eq_some_iff] at isStored
  obtain ⟨grant, last, rfl⟩ := isStored
  exact List.mem_map_of_mem (List.mem_of_getLast? last)

theorem party_mem_of_grant_mem {history : History} {grant : Grant}
    (member : grant ∈ grants history) :
    ∃ event, .event grant.party event ∈ history := by
  obtain ⟨occurrence, happened, granted⟩ := List.mem_filterMap.mp member
  cases occurrence with
  | outside now => cases granted
  | event party event =>
      obtain ⟨record, -, rfl⟩ := Option.map_eq_some_iff.mp granted
      exact ⟨event, happened⟩

theorem losses_eq_zero {party : Nat} {history : History}
    (absent : Absent party history) : losses party history = 0 := by
  rw [losses, List.countP_eq_zero]
  intro occurrence happened isLoss
  cases occurrence with
  | outside now => cases isLoss
  | event other event =>
      have own : other = party := by
        simp only [isLossOf, Bool.and_eq_true, decide_eq_true_eq] at isLoss
        exact isLoss.1
      exact absent event (own ▸ happened)

theorem losses_concat_self (party : Nat) (history : History) (event : Event) :
    losses party (history ++ [.event party event]) =
      losses party history + if isLostWrite event then 1 else 0 := by
  simp [losses, List.countP_append, List.countP_cons, isLossOf]

theorem losses_concat_of_ne {party other : Nat} (different : other ≠ party)
    (history : History) (event : Event) :
    losses party (history ++ [.event other event]) = losses party history := by
  simp [losses, List.countP_append, isLossOf, different]

theorem absent_append {party : Nat} {earlier later : History} :
    Absent party (earlier ++ later) ↔ Absent party earlier ∧ Absent party later := by
  simp only [Absent, List.mem_append, not_or, forall_and]

theorem Absent.concat {party other : Nat} {history : History}
    (absent : Absent party history) (different : other ≠ party) (event : Event) :
    Absent party (history ++ [.event other event]) := by
  refine absent_append.mpr ⟨absent, ?_⟩
  intro own happened
  cases List.mem_singleton.mp happened
  exact different rfl

theorem Holds.concat {key : ScopeKey} {initial previous : Option ScheduleRecord}
    {party other : Nat} {history : History}
    (holds : Holds key initial party previous history) (different : other ≠ party)
    (event : Event) :
    Holds key initial party previous (history ++ [.event other event]) := by
  obtain ⟨earlier, later, rfl, isStored, absent⟩ := holds
  exact ⟨earlier, later ++ [.event other event], by simp, isStored,
    absent.concat different event⟩

theorem grants_concat_of_ne {party other : Nat} (different : other ≠ party)
    {history : History} {event : Event}
    (ungranted : ∀ grant ∈ grants history, grant.party ≠ party) :
    ∀ grant ∈ grants (history ++ [.event other event]), grant.party ≠ party := by
  intro grant member
  rw [grants_append, List.mem_append] at member
  rcases member with before | new
  · exact ungranted grant before
  · obtain ⟨event, happened⟩ := party_mem_of_grant_mem new
    cases List.mem_singleton.mp happened
    exact different

section Lawful

variable {key : ScopeKey} {initial : Option ScheduleRecord}
  {Plans : Nat → UInt64 → Int64 → Prop} {earlier later history : History}

theorem lawful_nil : Lawful key initial Plans [] := by
  intro earlier occurrence later same
  simp at same

theorem Lawful.concat {occurrence : Occurrence Query Query.Reply Note Int64}
    (lawful : Lawful key initial Plans history)
    (follows : Follows key initial Plans history occurrence) :
    Lawful key initial Plans (history ++ [occurrence]) := by
  intro earlier other later same
  rcases split_concat same with ⟨rfl, rfl⟩ | ⟨rest, before⟩
  · exact follows
  · exact lawful earlier other rest before

theorem Lawful.before (lawful : Lawful key initial Plans (earlier ++ later)) :
    Lawful key initial Plans earlier := by
  intro first occurrence rest same
  refine lawful first occurrence (rest ++ later) ?_
  rw [same, List.append_assoc, List.cons_append]

theorem Lawful.last {occurrence : Occurrence Query Query.Reply Note Int64}
    (lawful : Lawful key initial Plans (history ++ [occurrence])) :
    Follows key initial Plans history occurrence :=
  lawful history occurrence [] rfl

theorem written?_writeCall_ok (threshold : UInt64) (now : Int64)
    (previous : Option ScheduleRecord) :
    written? (Retrying.writeCall key threshold now previous (.ok ())) =
      some (ScheduleRecord.planned key (plan previous threshold now) threshold) := by
  cases previous <;> rfl

theorem written?_writeCall_error (threshold : UInt64) (now : Int64)
    (previous : Option ScheduleRecord) (rejection : StoreError) :
    written? (Retrying.writeCall key threshold now previous (.error rejection)) =
      none := by
  cases previous <;> rfl

theorem grant?_writeCall_ok (party : Nat) (threshold : UInt64) (now : Int64)
    (previous : Option ScheduleRecord) :
    grant? (.event party (Retrying.writeCall key threshold now previous (.ok ()))) =
      some ⟨party,
        ScheduleRecord.planned key (plan previous threshold now) threshold⟩ := by
  rw [grant?, written?_writeCall_ok]
  rfl

theorem grant?_writeCall_error (party : Nat) (threshold : UInt64) (now : Int64)
    (previous : Option ScheduleRecord) (rejection : StoreError) :
    grant? (.event party (Retrying.writeCall key threshold now previous
      (.error rejection))) = none := by
  rw [grant?, written?_writeCall_error]
  rfl

theorem isLostWrite_writeCall_ok (threshold : UInt64) (now : Int64)
    (previous : Option ScheduleRecord) :
    isLostWrite (Retrying.writeCall key threshold now previous (.ok ())) = false := by
  cases previous <;> rfl

theorem isLostWrite_writeCall_error {rejection : StoreError}
    (conflict : rejection.Conflict) (threshold : UInt64) (now : Int64)
    (previous : Option ScheduleRecord) :
    isLostWrite (Retrying.writeCall key threshold now previous (.error rejection)) =
      true := by
  have isConflict := rejection.conflict_iff.mp conflict
  cases previous <;> exact isConflict

theorem written?_of_elsewhere {event : Event} (elsewhere : concernsStore event = false) :
    written? event = none := by
  rcases event with ⟨query, reply⟩ | note
  · cases query with
    | create record => cases elsewhere
    | update key expected record => cases elsewhere
    | _ => rfl
  · rfl

theorem isLostWrite_of_elsewhere {event : Event}
    (elsewhere : concernsStore event = false) : isLostWrite event = false := by
  rcases event with ⟨query, reply⟩ | note
  · cases query with
    | create record => cases elsewhere
    | update key expected record => cases elsewhere
    | _ => rfl
  · rfl

/-- What a grant behind a history goes back to: its party holds what it has read, and
what is filed is the record to which this leads. -/
structure Entitled (key : ScopeKey) (initial : Option ScheduleRecord)
    (Plans : Nat → UInt64 → Int64 → Prop) (history : History) (grant : Grant)
    (previous : Option ScheduleRecord) (threshold : UInt64) (now : Int64) : Prop where
  holds : Holds key initial grant.party previous history
  plans : Plans grant.party threshold now
  first : ∀ other ∈ grants history, other.party ≠ grant.party
  unchanged : time? (stored initial history) = time? previous
  isRecord : grant.record =
    ScheduleRecord.planned key (plan previous threshold now) threshold

theorem Follows.of_grant {occurrence : Occurrence Query Query.Reply Note Int64}
    {grant : Grant} (follows : Follows key initial Plans history occurrence)
    (granted : grant? occurrence = some grant) :
    ∃ previous threshold now,
      Entitled key initial Plans history grant previous threshold now := by
  cases follows with
  | aside elsewhere =>
      rw [grant?, written?_of_elsewhere elsewhere] at granted
      cases granted
  | read party => cases granted
  | granted holds plans first unchanged =>
      rw [grant?_writeCall_ok] at granted
      cases granted
      exact ⟨_, _, _, holds, plans, first, unchanged, rfl⟩
  | lost holds conflict changed =>
      rw [grant?_writeCall_error] at granted
      cases granted

/-- What holds of no grants, and of the grants up to one whenever it holds of those
before it, holds of the grants of a lawful history. -/
theorem Lawful.grants_induction {motive : List Grant → Prop}
    (lawful : Lawful key initial Plans history) (none : motive [])
    (next : ∀ earlier grant previous threshold now, Lawful key initial Plans earlier →
      Entitled key initial Plans earlier grant previous threshold now →
        motive (grants earlier) → motive (grants earlier ++ [grant])) :
    motive (grants history) := by
  induction history using List.reverseRecOn with
  | nil => exact none
  | append_singleton history occurrence hypothesis =>
      have before := hypothesis lawful.before
      cases granted : grant? occurrence with
      | none => rwa [grants_concat_of_none granted]
      | some grant =>
          obtain ⟨previous, threshold, now, entitled⟩ := lawful.last.of_grant granted
          rw [grants_concat_of_some granted]
          exact next _ _ previous threshold now lawful.before entitled before

theorem Follows.of_loss {party : Nat} {event : Event}
    (follows : Follows key initial Plans history (.event party event))
    (lost : isLostWrite event = true) :
    ∃ previous, Holds key initial party previous history ∧
      time? (stored initial history) ≠ time? previous := by
  cases follows with
  | aside elsewhere =>
      rw [isLostWrite_of_elsewhere elsewhere] at lost
      cases lost
  | read => cases lost
  | granted =>
      rw [isLostWrite_writeCall_ok] at lost
      cases lost
  | lost holds conflict changed => exact ⟨_, holds, changed⟩

/-- Whoever writes holds what it has read; and the write is granted or lost. -/
theorem Follows.of_write {party : Nat} {event : Event}
    (follows : Follows key initial Plans history (.event party event))
    (write : isWrite event = true) :
    (∃ previous, Holds key initial party previous history) ∧
      ((∃ record, written? event = some record) ∨ isLostWrite event = true) := by
  cases follows with
  | aside elsewhere =>
      rcases event with ⟨query, reply⟩ | note
      · cases query <;> cases elsewhere <;> cases write
      · cases write
  | read => cases write
  | granted holds => exact ⟨⟨_, holds⟩, .inl ⟨_, written?_writeCall_ok ..⟩⟩
  | lost holds conflict changed =>
      exact ⟨⟨_, holds⟩, .inr (isLostWrite_writeCall_error conflict ..)⟩

theorem overtaken_of_loss {party : Nat} {event : Event}
    (follows : Follows key initial Plans history (.event party event))
    (lost : isLostWrite event = true) : Overtaken key party history := by
  obtain ⟨previous, ⟨earlier, later, rfl, isStored, absent⟩, changed⟩ :=
    follows.of_loss lost
  refine ⟨earlier, .ok previous, later, rfl, absent, ?_⟩
  -- Without a grant behind the read, what was read would still be stored.
  rcases granted : grants later with _ | ⟨grant, others⟩
  · refine absurd ?_ changed
    rw [isStored]
    exact congrArg time? (stored_of_grants_eq_nil granted)
  · have member : grant ∈ grants later := granted ▸ List.mem_cons_self
    refine ⟨grant, List.mem_cons_self, ?_⟩
    intro own
    obtain ⟨event, happened⟩ := party_mem_of_grant_mem member
    exact absent event (own ▸ happened)

/-! ## Counting -/

theorem losses_append (party : Nat) (earlier later : History) :
    losses party (earlier ++ later) = losses party earlier + losses party later :=
  List.countP_append

theorem grantsToOthers_append (party : Nat) (earlier later : History) :
    grantsToOthers party (earlier ++ later) =
      grantsToOthers party earlier + grantsToOthers party later := by
  rw [grantsToOthers, grants_append, List.countP_append]
  rfl

/-- A party that was overtaken has lost no write since its read, and since then
another party was granted one. -/
theorem Overtaken.exists_before {party : Nat}
    (overtaken : Overtaken key party history) :
    ∃ earlier, earlier.length < history.length ∧ (∃ later, history = earlier ++ later) ∧
      losses party history = losses party earlier ∧
      grantsToOthers party earlier < grantsToOthers party history := by
  obtain ⟨earlier, answer, later, rfl, absent, grant, granted, isOther⟩ := overtaken
  have noLoss : losses party
      (.event party (.exchange (.read key) answer) :: later) = 0 := by
    rw [losses, List.countP_cons_of_neg (by simp [isLossOf, isLostWrite])]
    exact losses_eq_zero absent
  have some : 0 < grantsToOthers party
      (.event party (.exchange (.read key) answer) :: later) :=
    List.countP_pos_iff.mpr ⟨grant, granted, by simpa using isOther⟩
  refine ⟨earlier, ?_, ⟨_, rfl⟩, ?_, ?_⟩
  · simp
  · rw [losses_append, noLoss, Nat.add_zero]
  · rw [grantsToOthers_append]
    omega

/-- Nobody loses more writes than others are granted: what a party loses behind a
read is charged to the grant that overtook it, and the losses before that read are
charged to grants before it. -/
theorem Lawful.losses_le (lawful : Lawful key initial Plans history) (party : Nat) :
    losses party history ≤ grantsToOthers party history := by
  -- The losses before a read need the statement for a history that is shorter by more
  -- than one occurrence, so the induction is on the length.
  induction size : history.length using Nat.strongRecOn generalizing history with
  | _ size hypothesis =>
    subst size
    rcases List.eq_nil_or_concat' history with rfl | ⟨before, occurrence, rfl⟩
    · exact Nat.le_refl 0
    · have shorter : before.length < (before ++ [occurrence]).length := by simp
      have atBefore := hypothesis _ shorter lawful.before rfl
      rw [losses_append, grantsToOthers_append]
      cases isLoss : isLossOf party occurrence with
      | false =>
          have none : losses party [occurrence] = 0 := by
            simp [losses, isLoss]
          omega
      | true =>
          have one : losses party [occurrence] = 1 := by
            simp [losses, isLoss]
          obtain ⟨event, rfl, lost⟩ : ∃ event, occurrence = .event party event ∧
              isLostWrite event = true := by
            cases occurrence with
            | outside now => cases isLoss
            | event other event =>
                simp only [isLossOf, Bool.and_eq_true, decide_eq_true_eq] at isLoss
                exact ⟨event, by rw [isLoss.1], isLoss.2⟩
          obtain ⟨earlier, few, ⟨later, rfl⟩, sameLosses, moreGrants⟩ :=
            (overtaken_of_loss lawful.last lost).exists_before
          have atRead := hypothesis earlier.length (Nat.lt_trans few shorter)
            lawful.before.before rfl
          omega

theorem Lawful.nodup_grantees (lawful : Lawful key initial Plans history) :
    ((grants history).map Grant.party).Nodup := by
  refine lawful.grants_induction (motive := fun given => (given.map Grant.party).Nodup)
    List.nodup_nil ?_
  intro earlier grant previous threshold now _ entitled distinct
  rw [List.map_append, List.map_singleton, ← List.concat_eq_append]
  apply List.Nodup.concat ?_ distinct
  intro again
  obtain ⟨other, member, same⟩ := List.mem_map.mp again
  exact entitled.first other member same

theorem Lawful.of_grant_mem (lawful : Lawful key initial Plans history) {grant : Grant}
    (member : grant ∈ grants history) :
    ∃ previous threshold now, Plans grant.party threshold now ∧
      grant.record =
        ScheduleRecord.planned key (plan previous threshold now) threshold := by
  obtain ⟨occurrence, happened, granted⟩ := List.mem_filterMap.mp member
  obtain ⟨earlier, later, same⟩ := List.append_of_mem happened
  obtain ⟨previous, threshold, now, entitled⟩ :=
    (lawful earlier occurrence later same).of_grant granted
  exact ⟨previous, threshold, now, entitled.plans, entitled.isRecord⟩

theorem Lawful.grantees_subset (lawful : Lawful key initial Plans history) {parties : Nat}
    (numbered : ∀ party threshold now, Plans party threshold now → party < parties) :
    (grants history).map Grant.party ⊆ List.range parties := by
  intro party member
  obtain ⟨grant, granted, rfl⟩ := List.mem_map.mp member
  obtain ⟨-, threshold, now, plans, -⟩ := lawful.of_grant_mem granted
  exact List.mem_range.mpr (numbered _ threshold now plans)

theorem Lawful.grants_length_le (lawful : Lawful key initial Plans history) {parties : Nat}
    (numbered : ∀ party threshold now, Plans party threshold now → party < parties) :
    (grants history).length ≤ parties := by
  have few := (List.subperm_of_subset lawful.nodup_grantees
    (lawful.grantees_subset numbered)).length_le
  simpa using few

theorem Lawful.grantsToOthers_lt (lawful : Lawful key initial Plans history)
    {parties party : Nat} (numbered : ∀ party threshold now,
      Plans party threshold now → party < parties) (isParty : party < parties) :
    grantsToOthers party history < parties := by
  let others := ((grants history).map Grant.party).filter fun other => other ≠ party
  have count : others.length = grantsToOthers party history := by
    rw [← List.countP_eq_length_filter, List.countP_map]
    rfl
  have distinct : (party :: others).Nodup := by
    refine List.nodup_cons.mpr ⟨?_, lawful.nodup_grantees.filter _⟩
    intro member
    simpa using (List.mem_filter.mp member).2
  have within : party :: others ⊆ List.range parties := by
    intro other member
    rcases List.mem_cons.mp member with rfl | member
    · exact List.mem_range.mpr isParty
    · exact lawful.grantees_subset numbered (List.mem_filter.mp member).1
  have few := (List.subperm_of_subset distinct within).length_le
  rw [List.length_cons, List.length_range] at few
  omega

end Lawful

end Pacing.Chronicle
