import Pacing.Proofs.Attempt
import Pacing.Proofs.Interleaving
import Pacing.Proofs.Retrying
import Pacing.Proofs.Site

/-!
# Stores that never fail on their way

Where no call of a store in memory fails on its way, a read gives what is stored,
and the write of an attempt is decided by the times alone: it is granted when the
time that is stored is still the time that was read, and lost otherwise.  Nothing
stored counts as a time of its own, so that creations and updates need no cases.
-/

namespace Pacing

def ScheduleRecord.time? (stored : Option ScheduleRecord) : Option Int64 :=
  stored.map lastExecutedAt

open ScheduleRecord (time?)

/-- How a store answers the write of a record behind what was read before. -/
inductive Store.Answers (store : Store) (key : ScopeKey)
    (previous : Option ScheduleRecord) (record : ScheduleRecord) :
    Except StoreError Unit → Store → Prop where
  | granted (unchanged : time? (store.get? key) = time? previous) :
      Answers store key previous record (.ok ()) (store.put key record)
  | lost {rejection : StoreError} (conflict : rejection.Conflict)
      (changed : time? (store.get? key) ≠ time? previous) :
      Answers store key previous record (.error rejection) store

namespace Store

variable {store : Store} {key : ScopeKey}

theorem create_answers {record : ScheduleRecord} (own : record.scope = key) :
    store.Answers key none record (store.create record).1 (store.create record).2 := by
  unfold create
  rw [own]
  cases stored : store.get? key with
  | none => exact .granted (by rw [stored])
  | some current => exact .lost (.taken key.text) (by simp [stored, time?])

theorem update_answers (current record : ScheduleRecord) :
    store.Answers key (some current) record
      (store.update key current.lastExecutedAt record).1
      (store.update key current.lastExecutedAt record).2 := by
  unfold update
  cases stored : store.get? key with
  | none => exact .lost (.changed key.text) (by simp [stored, time?])
  | some found =>
      by_cases same : found.lastExecutedAt = current.lastExecutedAt
      · simp only [if_pos same]
        exact .granted (by simp [stored, time?, same])
      · simp only [if_neg same]
        exact .lost (.changed key.text) (by simp [stored, time?, same])

end Store

def Query.concernsStore : Query → Bool
  | .read _ => true
  | .create _ => true
  | .update .. => true
  | _ => false

namespace Surroundings

variable {World : Type}

/-- Surroundings in which no call of the store fails on its way. -/
def faultless (reply : (query : Query) → World → query.Reply × World) :
    Surroundings World where
  fault _ _ := none
  reply

variable (reply : (query : Query) → World → query.Reply × World)

theorem faultless_read (key : ScopeKey) (site : Site World) :
    (faultless reply).respond (.read key) site =
      (.ok (site.store.get? key), ⟨site.store, (reply (.read key) site.world).2⟩) :=
  rfl

theorem faultless_aside {query : Query} (aside : query.concernsStore = false)
    (site : Site World) :
    (faultless reply).respond query site =
      ((reply query site.world).1, ⟨site.store, (reply query site.world).2⟩) := by
  cases query with
  | read key => cases aside
  | create record => cases aside
  | update key expected record => cases aside
  | _ => rfl

/-- The write of an attempt that has read, with its answer and what is left. -/
theorem faultless_proceed (key : ScopeKey) (threshold : UInt64) (now : Int64)
    (previous : Option ScheduleRecord) (site : Site World) :
    ∃ written behind,
      (Handling.proceed key threshold now previous).advance (faultless reply).respond
          site =
        some (Retrying.writeCall key threshold now previous written,
          Handling.conclude key now (plan previous threshold now) previous written,
          behind) ∧
      site.store.Answers key previous
        (ScheduleRecord.planned key (plan previous threshold now) threshold) written
        behind.store := by
  cases previous with
  | none => exact ⟨_, _, rfl, Store.create_answers rfl⟩
  | some current => exact ⟨_, _, rfl, Store.update_answers current _⟩

end Surroundings

end Pacing
