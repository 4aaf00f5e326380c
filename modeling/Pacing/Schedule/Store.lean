import Pacing.Schedule.Record

/-!
# Schedule stores

A store of schedule records held in memory, with one record under each key.
Creating a record and replacing one are conditional: a key that is taken, or a
record that has changed since it was read, is reported and nothing is written.
Expired records stay until they are reaped.  What a store holds is seen
through `get?`.
-/

namespace Pacing

structure Store where
  entries : List (ScopeKey × ScheduleRecord)
  /-- No key is filed twice. -/
  distinct : (entries.map Prod.fst).Nodup
  deriving DecidableEq, Repr

namespace Store

/-! ## Entries -/

/-- Files a record under a key, in the place of one that was there. -/
def putEntry (key : ScopeKey) (record : ScheduleRecord) :
    List (ScopeKey × ScheduleRecord) → List (ScopeKey × ScheduleRecord)
  | [] => [(key, record)]
  | entry :: rest =>
    if entry.1 = key then (key, record) :: rest else entry :: putEntry key record rest

theorem mem_keys_putEntry {key other : ScopeKey} {record : ScheduleRecord}
    {entries : List (ScopeKey × ScheduleRecord)} :
    other ∈ (putEntry key record entries).map Prod.fst ↔
      other = key ∨ other ∈ entries.map Prod.fst := by
  induction entries with
  | nil => simp [putEntry]
  | cons entry rest hypothesis =>
    unfold putEntry
    split
    · next taken => simp [← taken]
    · rw [List.map_cons, List.mem_cons, hypothesis, List.map_cons, List.mem_cons]
      exact or_left_comm

theorem nodup_keys_putEntry (key : ScopeKey) (record : ScheduleRecord)
    {entries : List (ScopeKey × ScheduleRecord)}
    (distinct : (entries.map Prod.fst).Nodup) :
    ((putEntry key record entries).map Prod.fst).Nodup := by
  induction entries with
  | nil => simp [putEntry]
  | cons entry rest hypothesis =>
    rw [List.map_cons, List.nodup_cons] at distinct
    unfold putEntry
    split
    · next taken =>
      rw [List.map_cons, List.nodup_cons]
      exact ⟨taken ▸ distinct.1, distinct.2⟩
    · next different =>
      rw [List.map_cons, List.nodup_cons, mem_keys_putEntry]
      exact ⟨fun found => found.elim different distinct.1, hypothesis distinct.2⟩

/-! ## Operations -/

def empty : Store := ⟨[], List.nodup_nil⟩

/-- The record filed under a key. -/
def get? (store : Store) (key : ScopeKey) : Option ScheduleRecord :=
  (store.entries.find? fun entry => entry.1 = key).map Prod.snd

/-- Files a record under a key, whatever is there. -/
def put (store : Store) (key : ScopeKey) (record : ScheduleRecord) : Store :=
  ⟨putEntry key record store.entries, nodup_keys_putEntry key record store.distinct⟩

/-- Files a record under the scope that it carries, whatever is there. -/
def seed (store : Store) (record : ScheduleRecord) : Store :=
  store.put record.scope record

/-- Files a record under the scope that it carries if nothing is there. -/
def create (store : Store) (record : ScheduleRecord) : Except StoreError Unit × Store :=
  match store.get? record.scope with
  | some _ => (.error (.alreadyExists record.scope.text), store)
  | none => (.ok (), store.put record.scope record)

/-- Replaces the record under a key if its time is the expected one. -/
def update (store : Store) (key : ScopeKey) (expected : Int64) (record : ScheduleRecord) :
    Except StoreError Unit × Store :=
  match store.get? key with
  | none => (.error (.conditionFailed key.text), store)
  | some current =>
    if current.lastExecutedAt = expected then (.ok (), store.put key record)
    else (.error (.conditionFailed key.text), store)

/-- The store without the records that have expired. -/
def reap (store : Store) (now : Int64) : Store :=
  ⟨store.entries.filter fun entry => !entry.2.isExpired now,
    (List.filter_sublist.map Prod.fst).nodup store.distinct⟩

/-- How many records a reaping removes. -/
def reapCount (store : Store) (now : Int64) : Nat :=
  store.entries.countP fun entry => entry.2.isExpired now

/-! ## What the operations do to the view -/

@[simp] theorem get?_empty (key : ScopeKey) : empty.get? key = none := rfl

theorem get?_put (store : Store) (key : ScopeKey) (record : ScheduleRecord)
    (other : ScopeKey) :
    (store.put key record).get? other =
      if key = other then some record else store.get? other := by
  obtain ⟨entries, distinct⟩ := store
  simp only [put, get?]
  induction entries with
  | nil => by_cases same : key = other <;> simp [putEntry, same]
  | cons entry rest hypothesis =>
    rw [List.map_cons, List.nodup_cons] at distinct
    have behind := hypothesis distinct.2
    unfold putEntry
    by_cases taken : entry.1 = key
    · by_cases same : key = other <;> simp_all
    · by_cases same : entry.1 = other
      · have apart : key ≠ other := fun equal => taken (same.trans equal.symm)
        rw [if_neg taken]
        simp [same, apart]
      · rw [if_neg taken]
        simp [same, behind]

@[simp] theorem get?_put_self (store : Store) (key : ScopeKey) (record : ScheduleRecord) :
    (store.put key record).get? key = some record := by
  simp [get?_put]

/-- Reaping keeps a record exactly while it has not expired. -/
theorem get?_reap (store : Store) (now : Int64) (key : ScopeKey) :
    (store.reap now).get? key =
      (store.get? key).filter fun record => !record.isExpired now := by
  obtain ⟨entries, distinct⟩ := store
  simp only [reap, get?]
  induction entries with
  | nil => rfl
  | cons entry rest hypothesis =>
    rw [List.map_cons, List.nodup_cons] at distinct
    have behind := hypothesis distinct.2
    by_cases same : entry.1 = key
    · have absent : rest.find? (fun entry => decide (entry.1 = key)) = none := by
        rw [List.find?_eq_none]
        intro other member
        have apart : other.1 ≠ key := fun equal =>
          distinct.1 (same.trans equal.symm ▸ List.mem_map_of_mem member)
        simpa using apart
      rw [absent] at behind
      cases expired : entry.2.isExpired now
      · rw [List.filter_cons_of_pos (by simp [expired])]
        simp [same, Option.filter_some, expired]
      · rw [List.filter_cons_of_neg (by simp [expired]), behind]
        simp [same, Option.filter_some, expired]
    · rw [List.find?_cons_of_neg (by simpa using same), ← behind]
      cases expired : entry.2.isExpired now
      · rw [List.filter_cons_of_pos (by simp [expired]),
          List.find?_cons_of_neg (by simpa using same)]
      · rw [List.filter_cons_of_neg (by simp [expired])]

end Store

end Pacing
