import Pacing.Handling.Query
import Pacing.Schedule.Store

/-!
# Stores in memory and their surroundings

A store in memory answers the queries that concern it; everything else that is
asked is answered by surroundings of any kind.  A call of the store may fail on
its way, and then the store has not seen it.  The statements say what each
query can do to the store: a write that is acknowledged has filed its record in
the place of what it expected, and nothing else changes a store.
-/

namespace Pacing

namespace Store

theorem create_cases (store : Store) (record : ScheduleRecord) :
    (∃ error, store.create record = (.error error, store)) ∨
      (store.get? record.scope = none ∧
        store.create record = (.ok (), store.put record.scope record)) := by
  unfold create
  cases stored : store.get? record.scope with
  | none => exact .inr ⟨rfl, rfl⟩
  | some current => exact .inl ⟨_, rfl⟩

theorem update_cases (store : Store) (key : ScopeKey) (expected : Int64)
    (record : ScheduleRecord) :
    (∃ error, store.update key expected record = (.error error, store)) ∨
      ((store.get? key).map ScheduleRecord.lastExecutedAt = some expected ∧
        store.update key expected record = (.ok (), store.put key record)) := by
  unfold update
  cases stored : store.get? key with
  | none => exact .inl ⟨_, rfl⟩
  | some current =>
      by_cases same : current.lastExecutedAt = expected
      · exact .inr ⟨congrArg some same, if_pos same⟩
      · exact .inl ⟨_, if_neg same⟩

end Store

/-- A store in memory, and the world around it. -/
structure Site (World : Type) where
  store : Store
  world : World

def Site.reap {World : Type} (now : Int64) (site : Site World) : Site World :=
  { site with store := site.store.reap now }

/-- What surrounds a store in memory. -/
structure Surroundings (World : Type) where
  /-- The error with which a call of the store fails on its way, if it does. -/
  fault : Query → World → Option StoreError
  /-- What the other collaborators reply, and how the world goes on with each
  query. -/
  reply : (query : Query) → World → query.Reply × World

namespace Surroundings

variable {World : Type} (surroundings : Surroundings World)

/-- A call of the store, unless it fails on its way. -/
def call {α : Type} (query : Query)
    (operation : Store → Except StoreError α × Store) (site : Site World) :
    Except StoreError α × Site World :=
  let world := (surroundings.reply query site.world).2
  match surroundings.fault query site.world with
  | some error => (.error error, ⟨site.store, world⟩)
  | none =>
    let called := operation site.store
    (called.1, ⟨called.2, world⟩)

def respond (query : Query) (site : Site World) : query.Reply × Site World :=
  match query with
  | .read key =>
    surroundings.call (.read key) (fun store => (.ok (store.get? key), store)) site
  | .create record =>
    surroundings.call (.create record) (fun store => store.create record) site
  | .update key expected record =>
    surroundings.call (.update key expected record)
      (fun store => store.update key expected record) site
  | query =>
    let replied := surroundings.reply query site.world
    (replied.1, { site with world := replied.2 })

/-- Surroundings in which no call fails and nothing but the queries of the store
matters: the clock stands, the lowest number is drawn, and all is well. -/
def steady (now : Int64) : Surroundings Unit where
  fault _ _ := none
  reply
    | .now, _ => (now, ())
    | .draw _, _ => (0, ())
    | .sleep _, _ => ((), ())
    | .read _, _ => (.ok none, ())
    | .create _, _ => (.ok (), ())
    | .update .., _ => (.ok (), ())
    | .record _, _ => (.ok (), ())
    | .notifySuccess .., _ => (.ok (), ())
    | .notifyFailure .., _ => (.ok (), ())

theorem call_cases {α : Type} (query : Query)
    (operation : Store → Except StoreError α × Store) (site : Site World) :
    ((∃ error, (surroundings.call query operation site).1 = .error error) ∧
      (surroundings.call query operation site).2.store = site.store) ∨
    ((surroundings.call query operation site).1 = (operation site.store).1 ∧
      (surroundings.call query operation site).2.store = (operation site.store).2) := by
  unfold call
  cases surroundings.fault query site.world with
  | some error => exact .inl ⟨⟨error, rfl⟩, rfl⟩
  | none => exact .inr ⟨rfl, rfl⟩

/-- A read gives what is stored, or fails; it changes no record. -/
theorem respond_read (key : ScopeKey) (site : Site World) :
    ((∃ error, (surroundings.respond (.read key) site).1 = .error error) ∨
      (surroundings.respond (.read key) site).1 = .ok (site.store.get? key)) ∧
    (surroundings.respond (.read key) site).2.store = site.store := by
  rcases surroundings.call_cases (.read key)
      (fun store => (.ok (store.get? key), store)) site with
    ⟨failed, unchanged⟩ | ⟨answered, unchanged⟩
  · exact ⟨.inl failed, unchanged⟩
  · exact ⟨.inr answered, unchanged⟩

/-- An acknowledged creation has found no record and has filed its own; any
other changes nothing. -/
theorem respond_create (record : ScheduleRecord) (site : Site World) :
    ((∃ error, (surroundings.respond (.create record) site).1 = .error error) ∧
      (surroundings.respond (.create record) site).2.store = site.store) ∨
    ((surroundings.respond (.create record) site).1 = .ok () ∧
      site.store.get? record.scope = none ∧
      (surroundings.respond (.create record) site).2.store =
        site.store.put record.scope record) := by
  rcases surroundings.call_cases (.create record)
      (fun store => store.create record) site with
    failed | ⟨answered, stored⟩
  · exact .inl failed
  · rcases site.store.create_cases record with ⟨error, refused⟩ | ⟨absent, created⟩
    · rw [refused] at answered stored
      exact .inl ⟨⟨error, answered⟩, stored⟩
    · rw [created] at answered stored
      exact .inr ⟨answered, absent, stored⟩

/-- An acknowledged update has found the expected time and has filed its
record; any other changes nothing. -/
theorem respond_update (key : ScopeKey) (expected : Int64) (record : ScheduleRecord)
    (site : Site World) :
    ((∃ error,
        (surroundings.respond (.update key expected record) site).1 = .error error) ∧
      (surroundings.respond (.update key expected record) site).2.store =
        site.store) ∨
    ((surroundings.respond (.update key expected record) site).1 = .ok () ∧
      (site.store.get? key).map ScheduleRecord.lastExecutedAt = some expected ∧
      (surroundings.respond (.update key expected record) site).2.store =
        site.store.put key record) := by
  rcases surroundings.call_cases (.update key expected record)
      (fun store => store.update key expected record) site with
    failed | ⟨answered, stored⟩
  · exact .inl failed
  · rcases site.store.update_cases key expected record with
      ⟨error, refused⟩ | ⟨found, updated⟩
    · rw [refused] at answered stored
      exact .inl ⟨⟨error, answered⟩, stored⟩
    · rw [updated] at answered stored
      exact .inr ⟨answered, found, stored⟩

end Surroundings

end Pacing
