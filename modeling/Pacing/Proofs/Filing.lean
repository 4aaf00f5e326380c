import Mathlib.Data.Set.Card
import Pacing.Proofs.Attempt
import Pacing.Proofs.Plan
import Pacing.Proofs.Site

/-!
# Filing of records

An update files the record that it is given under the key that it is given.  It does not
ask whether the record carries that key, nor when the record is to expire.  That each
record is found under its own scope, and expires at the end of its own window, is
therefore up to those who write.  Attempts keep to it whatever they have read.

An operation can do only three things to a store: nothing, which shows in its outcome,
or file one record under the one key that it is about, or reap.  Everything else that is
said here of operations follows from that.
-/

namespace Pacing

namespace Store

/-! ## What is filed -/

theorem get?_eq_some_iff (store : Store) (key : ScopeKey) (record : ScheduleRecord) :
    store.get? key = some record ↔ (key, record) ∈ store.entries := by
  obtain ⟨entries, distinct⟩ := store
  simp only [get?]
  induction entries with
  | nil => simp
  | cons entry rest induction =>
      obtain ⟨other, filed⟩ := entry
      rw [List.map_cons, List.nodup_cons] at distinct
      by_cases same : other = key
      · subst same
        have absent : (other, record) ∉ rest := fun member =>
          distinct.1 (List.mem_map.mpr ⟨(other, record), member, rfl⟩)
        simp [absent, eq_comm]
      · simp [same, Ne.symm same, induction distinct.2]

/-- A reaping counts the keys under which it finds records that have expired. -/
theorem reapCount_eq_ncard (store : Store) (now : Int64) :
    store.reapCount now =
      {key | ∃ record, store.get? key = some record ∧ record.isExpired now = true}.ncard := by
  let expired := store.entries.filter fun entry => entry.2.isExpired now
  have distinct : (expired.map Prod.fst).Nodup :=
    (List.filter_sublist.map Prod.fst).nodup store.distinct
  have keys : {key | ∃ record, store.get? key = some record ∧
      record.isExpired now = true} = ↑(expired.map Prod.fst).toFinset := by
    ext key
    simp [expired, get?_eq_some_iff]
  rw [keys, Set.ncard_coe_finset, List.toFinset_card_of_nodup distinct, List.length_map,
    reapCount, List.countP_eq_length_filter]

end Store

namespace Filing

open Handling

/-- A record that is found under the scope that it carries, and that expires at the end
of the window behind its slot. -/
structure Filed (threshold : UInt64) (key : ScopeKey) (record : ScheduleRecord) : Prop where
  scope : record.scope = key
  expiry : record.expiresAt.toInt = Seconds.windowEnd record.lastExecutedAt threshold

def Kept (threshold : UInt64) (store : Store) : Prop :=
  ∀ key record, store.get? key = some record → Filed threshold key record

/-- The window behind the slot of a record is over. -/
def Elapsed (threshold : UInt64) (now : Int64) (record : ScheduleRecord) : Prop :=
  record.lastExecutedAt.toInt + min threshold.toNat 0x7FFFFFFFFFFFFFFF < now.toInt

section Records

variable {threshold : UInt64} {key : ScopeKey} {record : ScheduleRecord} {store : Store}

theorem filed_planned (threshold : UInt64) (key : ScopeKey) (plannedAt : Int64) :
    Filed threshold key (.planned key plannedAt threshold) :=
  ⟨rfl, Seconds.toInt_add_window_eq_windowEnd plannedAt threshold⟩

/-- An expiry that has been cut at the end of the word is never passed, and neither is
the end of the window itself. -/
theorem Filed.isExpired_iff (filed : Filed threshold key record) (now : Int64) :
    record.isExpired now = true ↔ Elapsed threshold now record := by
  have fits := now.toInt_lt
  rw [record.isExpired_eq_true, Int64.lt_iff_toInt_lt, filed.expiry, Seconds.windowEnd,
    Elapsed]
  omega

theorem not_elapsed_of_le {now : Int64} (ahead : now ≤ record.lastExecutedAt) :
    ¬ Elapsed threshold now record := by
  have notBefore := Int64.le_iff_toInt_le.mp ahead
  rw [Elapsed]
  omega

theorem kept_empty (threshold : UInt64) : Kept threshold Store.empty := by
  intro key record stored
  cases stored

theorem Kept.put (kept : Kept threshold store) (filed : Filed threshold key record) :
    Kept threshold (store.put key record) := by
  intro other found stored
  rw [Store.get?_put] at stored
  by_cases own : key = other
  · rw [if_pos own] at stored
    cases own
    cases stored
    exact filed
  · rw [if_neg own] at stored
    exact kept other found stored

theorem Kept.reap (kept : Kept threshold store) (now : Int64) :
    Kept threshold (store.reap now) := by
  intro key record stored
  rw [Store.get?_reap] at stored
  exact kept key record (Option.filter_eq_some_iff.mp stored).1

/-- Reaping leaves exactly the records whose windows are not over. -/
theorem Kept.get?_reap_iff (kept : Kept threshold store) (now : Int64) (key : ScopeKey)
    (record : ScheduleRecord) :
    (store.reap now).get? key = some record ↔
      store.get? key = some record ∧ ¬ Elapsed threshold now record := by
  rw [Store.get?_reap, Option.filter_eq_some_iff]
  refine and_congr_right fun stored => ?_
  rw [← (kept key record stored).isExpired_iff now, Bool.not_eq_true', Bool.not_eq_true]

theorem Kept.reapCount_eq (kept : Kept threshold store) (now : Int64) :
    store.reapCount now =
      {key | ∃ record, store.get? key = some record ∧
        Elapsed threshold now record}.ncard := by
  rw [Store.reapCount_eq_ncard]
  congr 1
  ext key
  refine exists_congr fun record => and_congr_right fun stored => ?_
  exact (kept key record stored).isExpired_iff now

end Records

/-! ## Operations -/

inductive Operation where
  | create (record : ScheduleRecord)
  | update (key : ScopeKey) (expected : Int64) (record : ScheduleRecord)
  | schedule (key : ScopeKey) (now : Int64)
  | reap (now : Int64)
  deriving DecidableEq, Repr

/-- What an operation comes to. -/
inductive Outcome where
  | written (reply : Except StoreError Unit)
  | scheduled (result : Except SchedulerError Decision)
  | reaped (count : Nat)

namespace Operation

/-- The scope that an operation is about; a reaping is about them all. -/
def scope? : Operation → Option ScopeKey
  | .create record => some record.scope
  | .update key _ _ => some key
  | .schedule key _ => some key
  | .reap _ => none

/-- A record that an operation brings along has been planned, and for the very scope
that the operation is about.  What an attempt writes is one of these as well, so that
runs of them include attempts that others overtake between their read and their write. -/
inductive Planned (threshold : UInt64) : Operation → Prop where
  | create (key : ScopeKey) (plannedAt : Int64) :
      Planned threshold (.create (.planned key plannedAt threshold))
  | update (key : ScopeKey) (expected plannedAt : Int64) :
      Planned threshold (.update key expected (.planned key plannedAt threshold))
  | schedule (key : ScopeKey) (now : Int64) : Planned threshold (.schedule key now)
  | reap (now : Int64) : Planned threshold (.reap now)

end Operation

/-- An outcome that is an error, or tells that another writer has won. -/
inductive Outcome.Refused : Outcome → Prop where
  | written (error : StoreError) : Refused (.written (.error error))
  | failed (error : SchedulerError) : Refused (.scheduled (.error error))
  | conflict (plannedAt : Int64) (previous : Option Int64) :
      Refused (.scheduled (.ok ⟨plannedAt, .conflict, previous⟩))

section Runs

variable {World : Type}

def act (surroundings : Surroundings World) (threshold : UInt64) :
    Operation → Site World → Outcome × Site World
  | .create record, site =>
    let replied := surroundings.respond (.create record) site
    (.written replied.1, replied.2)
  | .update key expected record, site =>
    let replied := surroundings.respond (.update key expected record) site
    (.written replied.1, replied.2)
  | .schedule key now, site =>
    let ended := (attempt key threshold now).run surroundings.respond site
    (.scheduled ended.result, ended.state)
  | .reap now, site => (.reaped (site.store.reapCount now), site.reap now)

/-- Takes operations one after the other. -/
def perform (surroundings : Surroundings World) (threshold : UInt64) :
    List Operation → Site World → Site World
  | [], site => site
  | operation :: operations, site =>
    perform surroundings threshold operations
      (act surroundings threshold operation site).2

end Runs

/-! ## What an operation can do -/

/-- A write is refused, or its record is filed. -/
inductive Written (before : Store) (key : ScopeKey) (record : ScheduleRecord) :
    Except StoreError Unit → Store → Prop where
  | refused (error : StoreError) : Written before key record (.error error) before
  | filed : Written before key record (.ok ()) (before.put key record)

/-- What an operation with an outcome makes of a store. -/
inductive Effect (threshold : UInt64) (operation : Operation) (before : Store) :
    Outcome → Store → Prop where
  | nothing {outcome : Outcome} (refused : outcome.Refused) :
      Effect threshold operation before outcome before
  | filing {outcome : Outcome} {key : ScopeKey} {record : ScheduleRecord}
      (granted : ¬ outcome.Refused) (scope : operation.scope? = some key)
      (filed : operation.Planned threshold → Filed threshold key record) :
      Effect threshold operation before outcome (before.put key record)
  | reaping {now : Int64} (isReaping : operation = .reap now) :
      Effect threshold operation before (.reaped (before.reapCount now)) (before.reap now)

section Effects

variable {World : Type} (surroundings : Surroundings World) {threshold : UInt64}
  {operation : Operation} {before behind : Store} {outcome : Outcome} {key : ScopeKey}
  {record : ScheduleRecord}

theorem written_of {Found : Prop} {replied : Except StoreError Unit × Site World}
    (ended : ((∃ error, replied.1 = .error error) ∧ replied.2.store = before) ∨
      (replied.1 = .ok () ∧ Found ∧ replied.2.store = before.put key record)) :
    Written before key record replied.1 replied.2.store := by
  rcases ended with ⟨⟨error, refused⟩, unchanged⟩ | ⟨granted, -, filed⟩
  · rw [refused, unchanged]
    exact .refused error
  · rw [granted, filed]
    exact .filed

theorem written_create (record : ScheduleRecord) (site : Site World) :
    let replied := surroundings.respond (.create record) site
    Written site.store record.scope record replied.1 replied.2.store :=
  written_of (surroundings.respond_create record site)

theorem written_update (key : ScopeKey) (expected : Int64) (record : ScheduleRecord)
    (site : Site World) :
    let replied := surroundings.respond (.update key expected record) site
    Written site.store key record replied.1 replied.2.store :=
  written_of (surroundings.respond_update key expected record site)

theorem refused_written_iff (reply : Except StoreError Unit) :
    (Outcome.written reply).Refused ↔ ∃ error, reply = .error error := by
  constructor
  · intro refused
    cases refused with
    | written error => exact ⟨error, rfl⟩
  · rintro ⟨error, rfl⟩
    exact .written error

theorem Written.effect {reply : Except StoreError Unit}
    (written : Written before key record reply behind)
    (refused_iff : outcome.Refused ↔ ∃ error, reply = .error error)
    (scope : operation.scope? = some key)
    (filed : operation.Planned threshold → Filed threshold key record) :
    Effect threshold operation before outcome behind := by
  cases written with
  | refused error => exact .nothing (refused_iff.mpr ⟨error, rfl⟩)
  | filed =>
      refine .filing (fun refused => ?_) scope filed
      obtain ⟨error, isError⟩ := refused_iff.mp refused
      cases isError

/-- What is left of an attempt behind its write only tells how the write has ended. -/
theorem run_conclude (key : ScopeKey) (now plannedAt : Int64)
    (previous : Option ScheduleRecord) (reply : Except StoreError Unit) (site : Site World) :
    let ended := (conclude key now plannedAt previous reply).run surroundings.respond site
    ended.state = site ∧
      ((Outcome.scheduled ended.result).Refused ↔ ∃ error, reply = .error error) := by
  intro ended
  cases reply with
  | ok granted =>
      refine ⟨rfl, ?_⟩
      constructor
      · intro refused
        cases refused
      · rintro ⟨error, isError⟩
        cases isError
  | error error =>
      suffices refuses : ended.state = site ∧ (Outcome.scheduled ended.result).Refused from
        ⟨refuses.1, fun _ => ⟨error, rfl⟩, fun _ => refuses.2⟩
      unfold ended conclude
      by_cases conflict : error.Conflict
      · rw [outcomeOf_conflict conflict]
        exact ⟨rfl, .conflict _ _⟩
      · rw [outcomeOf_other conflict]
        exact ⟨rfl, .failed _⟩

theorem effect_conclude {reply : Except StoreError Unit} {site : Site World}
    (written : Written before key record reply site.store)
    (filed : Filed threshold key record) (now plannedAt : Int64)
    (previous : Option ScheduleRecord) :
    let ended := (conclude key now plannedAt previous reply).run surroundings.respond site
    Effect threshold (.schedule key now) before (.scheduled ended.result)
      ended.state.store := by
  intro ended
  obtain ⟨unchanged, refused_iff⟩ :=
    run_conclude surroundings key now plannedAt previous reply site
  have store : ended.state.store = site.store := congrArg Site.store unchanged
  rw [store]
  exact written.effect refused_iff rfl fun _ => filed

/-- An attempt files its own record or none, whatever the answer to its read is. -/
theorem effect_proceedFrom (key : ScopeKey) (threshold : UInt64) (now : Int64)
    (answer : Except StoreError (Option ScheduleRecord)) (site : Site World) :
    let ended := (proceedFrom key threshold now answer).run surroundings.respond site
    Effect threshold (.schedule key now) site.store (.scheduled ended.result)
      ended.state.store := by
  cases answer with
  | error error => exact .nothing (.failed (.ofStore error))
  | ok previous =>
      cases previous with
      | none =>
          have written := written_create surroundings (.planned key now threshold) site
          exact effect_conclude surroundings written (filed_planned ..) now now none
      | some record =>
          have written := written_update surroundings key record.lastExecutedAt
            (.planned key (plan (some record) threshold now) threshold) site
          exact effect_conclude surroundings written (filed_planned ..) now _ (some record)

theorem effect_attempt (key : ScopeKey) (threshold : UInt64) (now : Int64)
    (site : Site World) :
    let ended := (attempt key threshold now).run surroundings.respond site
    Effect threshold (.schedule key now) site.store (.scheduled ended.result)
      ended.state.store := by
  let read := surroundings.respond (.read key) site
  have effect := effect_proceedFrom surroundings key threshold now read.1 read.2
  have unchanged : read.2.store = site.store := (surroundings.respond_read key site).2
  rw [unchanged] at effect
  rw [attempt_eq]
  exact effect

theorem act_effect (threshold : UInt64) (operation : Operation) (site : Site World) :
    let acted := act surroundings threshold operation site
    Effect threshold operation site.store acted.1 acted.2.store := by
  cases operation with
  | create record =>
      refine (written_create surroundings record site).effect (refused_written_iff _) rfl ?_
      intro planned
      cases planned with
      | create key plannedAt => exact filed_planned threshold key plannedAt
  | update key expected record =>
      refine (written_update surroundings key expected record site).effect
        (refused_written_iff _) rfl ?_
      intro planned
      cases planned with
      | update _ _ plannedAt => exact filed_planned threshold key plannedAt
  | schedule key now => exact effect_attempt surroundings key threshold now site
  | reap now => exact .reaping rfl

/-! ## What follows -/

theorem Effect.kept (effect : Effect threshold operation before outcome behind)
    (planned : operation.Planned threshold) (kept : Kept threshold before) :
    Kept threshold behind := by
  cases effect with
  | nothing refused => exact kept
  | filing granted scope filed => exact kept.put (filed planned)
  | reaping isReaping => exact kept.reap _

/-- Only what is filed under the scope of an operation can change. -/
theorem Effect.get?_of_ne (effect : Effect threshold operation before outcome behind)
    (scope : operation.scope? = some key) {other : ScopeKey} (elsewhere : other ≠ key) :
    behind.get? other = before.get? other := by
  cases effect with
  | nothing refused => rfl
  | filing granted own filed =>
      obtain rfl := Option.some.inj (own.symm.trans scope)
      rw [Store.get?_put, if_neg (Ne.symm elsewhere)]
  | reaping isReaping =>
      subst isReaping
      cases scope

theorem Effect.eq_of_refused (effect : Effect threshold operation before outcome behind)
    (refused : outcome.Refused) : behind = before := by
  cases effect with
  | nothing => rfl
  | filing granted => exact absurd refused granted
  | reaping => cases refused

theorem kept_perform {operations : List Operation}
    (planned : ∀ operation ∈ operations, operation.Planned threshold) {site : Site World}
    (kept : Kept threshold site.store) :
    Kept threshold (perform surroundings threshold operations site).store := by
  induction operations generalizing site with
  | nil => exact kept
  | cons operation operations induction =>
      obtain ⟨first, rest⟩ := List.forall_mem_cons.mp planned
      exact induction rest ((act_effect surroundings threshold operation site).kept first kept)

end Effects

/-! ## Runs -/

/-- Behind operations whose records are planned, every record is found under its own
scope with the expiry of its own window, and a reaping removes and counts exactly the
records whose windows are over.  Any operation that comes next, planned or not, leaves
what is filed under other scopes, and leaves everything if it is refused. -/
theorem records_stay_filed {World : Type} (surroundings : Surroundings World)
    (threshold : UInt64) (world : World) (operations : List Operation)
    (planned : ∀ operation ∈ operations, operation.Planned threshold) :
    let site := perform surroundings threshold operations ⟨Store.empty, world⟩
    (∀ key record, site.store.get? key = some record → Filed threshold key record) ∧
    (∀ operation key other, operation.scope? = some key → other ≠ key →
      (act surroundings threshold operation site).2.store.get? other =
        site.store.get? other) ∧
    (∀ operation, (act surroundings threshold operation site).1.Refused →
      (act surroundings threshold operation site).2.store = site.store) ∧
    ∀ now, let reaped := act surroundings threshold (.reap now) site
      (∀ key record, reaped.2.store.get? key = some record ↔
        site.store.get? key = some record ∧ ¬ Elapsed threshold now record) ∧
      (∀ key record, site.store.get? key = some record → now ≤ record.lastExecutedAt →
        reaped.2.store.get? key = some record) ∧
      reaped.1 = .reaped {key | ∃ record, site.store.get? key = some record ∧
        Elapsed threshold now record}.ncard := by
  intro site
  have kept : Kept threshold site.store :=
    kept_perform surroundings planned (kept_empty threshold)
  refine ⟨kept, ?_, ?_, ?_⟩
  · intro operation key other scope elsewhere
    exact (act_effect surroundings threshold operation site).get?_of_ne scope elsewhere
  · intro operation refused
    exact (act_effect surroundings threshold operation site).eq_of_refused refused
  · intro now reaped
    refine ⟨kept.get?_reap_iff now, ?_, congrArg Outcome.reaped (kept.reapCount_eq now)⟩
    intro key record stored ahead
    exact (kept.get?_reap_iff now key record).mpr ⟨stored, not_elapsed_of_le ahead⟩

/-- Of two scopes one is behind its window when the store is reaped; the other one has a
slot that was put at the end of a window and is still within its own. -/
theorem records_stay_filed_of_two_scopes :
    let first : ScopeKey := ⟨"first"⟩
    let second : ScopeKey := ⟨"second"⟩
    let operations : List Operation :=
      [.create (.planned first 1000 60), .schedule second 1010, .schedule first 1030]
    let site := perform (Surroundings.steady 0) 60 operations ⟨Store.empty, ()⟩
    let reaped := act (Surroundings.steady 0) 60 (.reap 1100) site
    (∀ operation ∈ operations, operation.Planned 60) ∧
      site.store.get? first = some (.planned first 1060 60) ∧
      Filed 60 first (.planned first 1060 60) ∧
      reaped.2.store.get? first = some (.planned first 1060 60) ∧
      site.store.get? second = some (.planned second 1010 60) ∧
      reaped.2.store.get? second = none ∧
      reaped.1 = .reaped 1 := by
  intro first second operations site reaped
  have planned : ∀ operation ∈ operations, operation.Planned 60 := by
    rw [List.forall_mem_cons, List.forall_mem_cons, List.forall_mem_singleton]
    exact ⟨.create first 1000, .schedule second 1010, .schedule first 1030⟩
  have stored : site.store.get? first = some (.planned first 1060 60) := by decide +kernel
  obtain ⟨filed, -, -, reaps⟩ :=
    records_stay_filed (Surroundings.steady 0) 60 () operations planned
  have within : ¬ Elapsed 60 1100 (.planned first 1060 60) := by
    unfold Elapsed
    decide
  have counted : site.store.reapCount 1100 = 1 := by decide +kernel
  exact ⟨planned, stored, filed first _ stored,
    ((reaps 1100).1 first _).mpr ⟨stored, within⟩, by decide +kernel, by decide +kernel,
    congrArg Outcome.reaped counted⟩

/-- The premise is needed: an update whose record is planned for another scope is granted
all the same, and files it under a scope that is not its own. -/
example :
    let operations : List Operation :=
      [.create (.planned ⟨"first"⟩ 1000 60),
        .update ⟨"first"⟩ 1000 (.planned ⟨"second"⟩ 1060 60)]
    let site := perform (Surroundings.steady 0) 60 operations ⟨Store.empty, ()⟩
    (site.store.get? ⟨"first"⟩).map ScheduleRecord.scope = some ⟨"second"⟩ := by
  decide +kernel

end Filing

end Pacing
