import Pacing.Handling.Query
import Pacing.Schedule.Store

/-!
# Calls of schedule stores

A schedule store of any kind replies to three calls, and what it has been asked
before may change what it replies.  A store in memory is one of them.  There a
call is local: its reply depends on nothing but what is filed under the scope
that the call is about, and what is filed under other scopes stays.
-/

namespace Pacing

inductive StoreCall where
  | read (key : ScopeKey)
  | create (record : ScheduleRecord)
  | update (key : ScopeKey) (expected : Int64) (record : ScheduleRecord)
  deriving DecidableEq, Repr

namespace StoreCall

def query : StoreCall → Query
  | .read key => .read key
  | .create record => .create record
  | .update key expected record => .update key expected record

/-- What a store can reply to a call. -/
@[reducible] def Reply (call : StoreCall) : Type :=
  call.query.Reply

/-- The scope that a call is about. -/
def scope : StoreCall → ScopeKey
  | .read key => key
  | .create record => record.scope
  | .update key _ _ => key

end StoreCall

/-- How a store behaves, with a memory of what it has been asked. -/
abbrev StoreBehaviour (Memory : Type) :=
  (call : StoreCall) → Memory → call.Reply × Memory

namespace Store

/-- A store in memory. -/
def answer : StoreBehaviour Store
  | .read key, store => (.ok (store.get? key), store)
  | .create record, store => store.create record
  | .update key expected record, store => store.update key expected record

@[simp] theorem answer_create (record : ScheduleRecord) (store : Store) :
    answer (.create record) store = store.create record := rfl

@[simp] theorem answer_update (key : ScopeKey) (expected : Int64) (record : ScheduleRecord)
    (store : Store) :
    answer (.update key expected record) store = store.update key expected record := rfl

theorem create_of_absent {store : Store} {record : ScheduleRecord}
    (absent : store.get? record.scope = none) :
    store.create record = (.ok (), store.put record.scope record) := by
  simp only [create, absent]

theorem create_of_taken {store : Store} {record current : ScheduleRecord}
    (taken : store.get? record.scope = some current) :
    store.create record = (.error (.alreadyExists record.scope.text), store) := by
  simp only [create, taken]

theorem update_of_unchanged {store : Store} {key : ScopeKey} {current : ScheduleRecord}
    (stored : store.get? key = some current) (record : ScheduleRecord) :
    store.update key current.lastExecutedAt record = (.ok (), store.put key record) := by
  simp only [update, stored, if_true]

theorem update_of_changed {store : Store} {key : ScopeKey} {expected : Int64}
    (changed : ∀ current, store.get? key = some current →
      current.lastExecutedAt ≠ expected) (record : ScheduleRecord) :
    store.update key expected record = (.error (.conditionFailed key.text), store) := by
  unfold update
  cases stored : store.get? key with
  | none => rfl
  | some current => exact if_neg (changed current stored)

theorem get?_answer_of_ne (call : StoreCall) (store : Store) {key : ScopeKey}
    (elsewhere : call.scope ≠ key) : (answer call store).2.get? key = store.get? key := by
  cases call with
  | read own => rfl
  | create record =>
      rw [answer_create, create]
      split
      · rfl
      · exact (get?_put store record.scope record key).trans (if_neg elsewhere)
  | update own expected record =>
      rw [answer_update, update]
      split
      · rfl
      · split
        · exact (get?_put store own record key).trans (if_neg elsewhere)
        · rfl

theorem create_of_same {record : ScheduleRecord} {store other : Store}
    (same : store.get? record.scope = other.get? record.scope) :
    (store.create record).1 = (other.create record).1 ∧
      (store.create record).2.get? record.scope =
        (other.create record).2.get? record.scope := by
  unfold create
  rw [← same]
  cases stored : store.get? record.scope with
  | none => simp
  | some current => simp [← same, stored]

theorem update_of_same {key : ScopeKey} {store other : Store}
    (same : store.get? key = other.get? key) (expected : Int64) (record : ScheduleRecord) :
    (store.update key expected record).1 = (other.update key expected record).1 ∧
      (store.update key expected record).2.get? key =
        (other.update key expected record).2.get? key := by
  unfold update
  rw [← same]
  cases stored : store.get? key with
  | none => simp [← same, stored]
  | some current =>
      by_cases unchanged : current.lastExecutedAt = expected
      · simp [unchanged]
      · simp [unchanged, ← same, stored]

/-- Two stores that hold the same under the scope of a call give the same reply and
still hold the same there. -/
theorem answer_of_same {call : StoreCall} {store other : Store}
    (same : store.get? call.scope = other.get? call.scope) :
    (answer call store).1 = (answer call other).1 ∧
      (answer call store).2.get? call.scope = (answer call other).2.get? call.scope := by
  cases call with
  | read key => exact ⟨congrArg Except.ok same, same⟩
  | create record => exact create_of_same same
  | update key expected record => exact update_of_same same expected record

end Store

end Pacing
