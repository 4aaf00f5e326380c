import Mathlib.Data.List.Forall2
import Pacing.Proofs.Items
import Pacing.Proofs.StoreCalls

/-!
# Stores behind a table

A schedule store that is kept in a remote table gives the same replies as a store in
memory does.  The table may be any service that keeps items as it documents: it
evaluates the condition of a write together with the write, and it loses no reply.
The invariant is stronger than what the replies show.  Every item is exactly the one
that is written for the record in memory, which makes the update of two attributes
and the replacement of a whole record the same thing.
-/

namespace Pacing.Refinement

open Remote

abbrev Service (State : Type) :=
  (query : Remote.Query) → State → query.Reply × State

/-! ## Tables -/

structure Accepted (reply : Except ServiceFailure Unit) (before behind : ItemTable)
    (key : String) (item : Item) : Prop where
  acknowledged : reply = .ok ()
  filed : behind = before.put key item

structure Refused (reply : Except ServiceFailure Unit) (before behind : ItemTable) :
    Prop where
  named : ∃ detail, reply = .error ⟨some Table.conditionFailedName, detail⟩
  unchanged : behind = before

/-- A service keeps the items of a table.  What is asked of it is what requests of a
schedule store make use of: a read shows the item as it was written; a put that is
guarded by the absence of an attribute is accepted where no item is; an update that
is guarded by the equality of a time is accepted where the item has this time, and
sets the attributes that it names. -/
structure KeepsItems {State : Type} (service : Service State) (table : String)
    (items : State → ItemTable) : Prop where
  get : ∀ key state,
    let sent := service (.send (.getItem table key)) state
    sent.1 = .ok (items state key) ∧ items sent.2 = items state
  put : ∀ item key sign state, item.key? = some key → items state key = none →
    let sent := service (.send (.putItem table item (.absent sign))) state
    Accepted sent.1 (items state) (items sent.2) key item
  putTaken : ∀ item key sign current state, item.key? = some key →
    items state key = some current → current.get? sign.name ≠ none →
    let sent := service (.send (.putItem table item (.absent sign))) state
    Refused sent.1 (items state) (items sent.2)
  update : ∀ key assignments sign mark expected current state,
    items state key = some current → current.get? sign.name = some (.ofTime expected) →
    let condition := Condition.equals sign ⟨mark, .ofTime expected⟩
    let sent := service (.send (.updateItem table key assignments condition)) state
    Accepted sent.1 (items state) (items sent.2) key (current.assign assignments)
  updateChanged : ∀ key assignments sign mark expected state,
    (∀ current, items state key = some current →
      ∃ time, current.get? sign.name = some (.ofTime time) ∧ time ≠ expected) →
    let condition := Condition.equals sign ⟨mark, .ofTime expected⟩
    let sent := service (.send (.updateItem table key assignments condition)) state
    Refused sent.1 (items state) (items sent.2)

/-- A service that has nothing but a table. -/
def tableService : Service ItemTable
  | .now, table => (0, table)
  | .draw bound, table => (⟨0, Nat.succ_pos bound⟩, table)
  | .sleep _, table => ((), table)
  | .send request, table => table.execute request

theorem writeIf_of_holds {table : ItemTable} {condition : Condition} {key : String}
    (holds : condition.holds (table key) = true) (item : Item) :
    let written := table.writeIf condition key item
    Accepted written.1 table written.2 key item := by
  intro written
  have accepted : written = (.ok (), table.put key item) := if_pos holds
  constructor
  · rw [accepted]
  · rw [accepted]

theorem writeIf_of_fails {table : ItemTable} {condition : Condition} {key : String}
    (fails : condition.holds (table key) = false) (item : Item) :
    let written := table.writeIf condition key item
    Refused written.1 table written.2 := by
  intro written
  have refused : written = (.error ⟨some Table.conditionFailedName, ""⟩, table) :=
    if_neg (by simp [fails])
  constructor
  · exact ⟨"", by rw [refused]⟩
  · rw [refused]

theorem execute_putItem {item : Item} {key : String} (keyed : item.key? = some key)
    (name : String) (condition : Condition) (table : ItemTable) :
    table.execute (.putItem name item condition) = table.writeIf condition key item := by
  simp only [ItemTable.execute, keyed]

theorem keepsItems_tableService (name : String) : KeepsItems tableService name id where
  get _ _ := ⟨rfl, rfl⟩
  put item key sign table keyed absent := by
    simp only [tableService, execute_putItem keyed, id]
    apply writeIf_of_holds
    rw [show table key = none from absent]
    rfl
  putTaken item key sign current table keyed stored guarded := by
    simp only [tableService, execute_putItem keyed, id]
    apply writeIf_of_fails
    rw [show table key = some current from stored]
    simpa [Condition.holds, Option.isSome_iff_ne_none] using guarded
  update key assignments sign mark expected current table stored found := by
    simp only [tableService, ItemTable.execute, id] at stored ⊢
    rw [stored]
    apply writeIf_of_holds
    rw [stored]
    simp [Condition.holds, found, AttributeValue.agrees_ofTime]
  updateChanged key assignments sign mark expected table changed := by
    simp only [tableService, ItemTable.execute, id] at changed ⊢
    apply writeIf_of_fails
    cases stored : table key with
    | none => simp [Condition.holds]
    | some current =>
        obtain ⟨time, found, different⟩ := changed current stored
        rw [Bool.eq_false_iff]
        simp [Condition.holds, found, AttributeValue.agrees_ofTime, different]

/-! ## The store behind a table -/

section Step

variable {State : Type} {service : Service State} {settings : Settings}
  {items : State → ItemTable}

/-- How the store of the service behaves. -/
def throughTable (service : Service State) (settings : Settings) : StoreBehaviour State :=
  fun call state =>
    let run := (Remote.answer settings call.query).run service state
    (run.result, run.state)

theorem throughTable_read (named : Text.isBlank settings.tableName = false)
    (key : ScopeKey) (state : State) :
    let sent := service (.send (Table.getRequest settings.tableName key)) state
    throughTable service settings (.read key) state = (Table.readReply sent.1, sent.2) := by
  simp only [throughTable, StoreCall.query, Remote.answer, Table.read, Table.ask, named,
    Bool.false_eq_true]
  rfl

theorem throughTable_create (named : Text.isBlank settings.tableName = false)
    (record : ScheduleRecord) (state : State) :
    let sent := service (.send (Table.createRequest settings.tableName record)) state
    throughTable service settings (.create record) state =
      (Table.writeReply (.alreadyExists record.scope.text) "create" sent.1, sent.2) := by
  simp only [throughTable, StoreCall.query, Remote.answer, Table.create, Table.ask, named,
    Bool.false_eq_true]
  rfl

theorem throughTable_update (named : Text.isBlank settings.tableName = false)
    (key : ScopeKey) (expected : Int64) (record : ScheduleRecord) (state : State) :
    let request := Table.updateRequest settings.tableName key expected record
    let sent := service (.send request) state
    throughTable service settings (.update key expected record) state =
      (Table.writeReply (.conditionFailed key.text) "update" sent.1, sent.2) := by
  simp only [throughTable, StoreCall.query, Remote.answer, Table.update, Table.ask, named,
    Bool.false_eq_true]
  rfl

/-- A table holds, for every record of a store, the item that is written for it,
and nothing else; every record is filed under the scope that it carries. -/
structure Mirrors (table : ItemTable) (store : Store) : Prop where
  written : ∀ key : ScopeKey, table key.text = (store.get? key).map Item.ofRecord
  own : ∀ key record, store.get? key = some record → record.scope = key

theorem Mirrors.empty {table : ItemTable} (nothing : ∀ key, table key = none) :
    Mirrors table Store.empty := by
  constructor
  · intro key
    rw [nothing, Store.get?_empty]
    rfl
  · intro key record stored
    cases stored

theorem Mirrors.put {table : ItemTable} {store : Store} (mirrors : Mirrors table store)
    {key : ScopeKey} {record : ScheduleRecord} (own : record.scope = key) :
    Mirrors (table.put key.text (Item.ofRecord record)) (store.put key record) := by
  constructor
  · intro other
    rw [ItemTable.put_apply, Store.get?_put, mirrors.written]
    by_cases same : key = other
    · simp [same]
    · have apart : other.text ≠ key.text := by
        intro texts
        cases key
        cases other
        exact same (congrArg ScopeKey.mk texts.symm)
      simp [same, apart]
  · intro other found stored
    rw [Store.get?_put] at stored
    split at stored
    · next same =>
        cases stored
        exact own.trans same
    · exact mirrors.own other found stored

/-- Decoding the items of a table gives the records of a store. -/
def Decodes (table : ItemTable) (store : Store) : Prop :=
  ∀ key : ScopeKey, (table key.text).map Item.toRecord = (store.get? key).map .ok

theorem Mirrors.decodes {table : ItemTable} {store : Store}
    (mirrors : Mirrors table store) : Decodes table store := by
  intro key
  rw [mirrors.written, Option.map_map]
  refine congrArg (fun decode => Option.map decode (store.get? key)) ?_
  funext record
  exact Item.toRecord_ofRecord record

theorem readReply_written (found : Option ScheduleRecord) :
    Table.readReply (.ok (found.map Item.ofRecord)) = .ok found := by
  cases found with
  | none => rfl
  | some record =>
      show (Item.ofRecord record).toRecord.map some = .ok (some record)
      rw [Item.toRecord_ofRecord]
      rfl

theorem writeReply_refused {reply : Except ServiceFailure Unit} {before behind : ItemTable}
    (refused : Refused reply before behind) (rejection : StoreError) (action : String) :
    Table.writeReply rejection action reply = .error rejection := by
  obtain ⟨detail, rfl⟩ := refused.named
  simp [Table.writeReply, ServiceFailure.isOneOf]

/-- The replies of two stores agree, and the table goes on to mirror the store. -/
structure Agrees (items : State → ItemTable) {Reply : Type} (tabled : Reply × State)
    (kept : Reply × Store) : Prop where
  reply : tabled.1 = kept.1
  mirrors : Mirrors (items tabled.2) kept.2

theorem agrees_of_accepted {sent : Except ServiceFailure Unit × State}
    {before : ItemTable} {store : Store} (mirrors : Mirrors before store)
    {key : ScopeKey} {record : ScheduleRecord} (own : record.scope = key)
    (accepted : Accepted sent.1 before (items sent.2) key.text (Item.ofRecord record))
    (rejection : StoreError) (action : String) :
    Agrees items (Table.writeReply rejection action sent.1, sent.2)
      (.ok (), store.put key record) := by
  constructor
  · rw [accepted.acknowledged]
    rfl
  · rw [accepted.filed]
    exact mirrors.put own

theorem agrees_of_refused {sent : Except ServiceFailure Unit × State}
    {before : ItemTable} {store : Store} (mirrors : Mirrors before store)
    (refused : Refused sent.1 before (items sent.2)) (rejection : StoreError)
    (action : String) :
    Agrees items (Table.writeReply rejection action sent.1, sent.2)
      (.error rejection, store) := by
  constructor
  · exact writeReply_refused refused rejection action
  · rw [refused.unchanged]
    exact mirrors

variable (keeps : KeepsItems service settings.tableName items)
  (named : Text.isBlank settings.tableName = false) {state : State} {store : Store}
  (mirrors : Mirrors (items state) store)

include keeps named mirrors

theorem agrees_read (key : ScopeKey) :
    Agrees items (throughTable service settings (.read key) state)
      (Store.answer (.read key) store) := by
  obtain ⟨replied, unchanged⟩ := keeps.get key.text state
  rw [mirrors.written] at replied
  rw [throughTable_read named]
  constructor
  · exact (congrArg Table.readReply replied).trans (readReply_written _)
  · exact unchanged.symm ▸ mirrors

theorem agrees_create (record : ScheduleRecord) :
    Agrees items (throughTable service settings (.create record) state)
      (Store.answer (.create record) store) := by
  have keyed := Item.key?_ofRecord record
  have written := mirrors.written record.scope
  rw [throughTable_create named, Store.answer_create]
  cases stored : store.get? record.scope with
  | none =>
      rw [stored] at written
      rw [Store.create_of_absent stored]
      apply agrees_of_accepted mirrors rfl
      exact keeps.put (Item.ofRecord record) _ Table.keySign state keyed written
  | some current =>
      rw [stored] at written
      rw [Store.create_of_taken stored]
      apply agrees_of_refused mirrors
      apply keeps.putTaken (Item.ofRecord record) _ Table.keySign _ state keyed written
      rw [Table.keySign, Item.get?_partitionKey_ofRecord]
      simp

theorem agrees_update {key : ScopeKey} {record : ScheduleRecord}
    (own : record.scope = key) (expected : Int64) :
    Agrees items (throughTable service settings (.update key expected record) state)
      (Store.answer (.update key expected record) store) := by
  have written := mirrors.written key
  rw [throughTable_update named, Store.answer_update]
  by_cases found : ∃ current, store.get? key = some current ∧
      current.lastExecutedAt = expected
  · obtain ⟨current, stored, rfl⟩ := found
    rw [stored] at written
    rw [Store.update_of_unchanged stored]
    apply agrees_of_accepted mirrors own
    have accepted := keeps.update key.text
      [⟨Table.lastExecutedSign, ⟨":next", .ofTime record.lastExecutedAt⟩⟩,
        ⟨Table.expirySign, ⟨":ttl", .ofTime record.expiresAt⟩⟩]
      Table.lastExecutedSign ":expected" _ _ state written
      (Item.get?_lastExecutedName_ofRecord current)
    -- The update of the two times is as good as putting the whole item.
    have replaced := Item.set_times_ofRecord record
      ((mirrors.own key current stored).trans own.symm)
    rw [← replaced]
    exact accepted
  · have changed : ∀ current, store.get? key = some current →
        current.lastExecutedAt ≠ expected := by
      intro current stored same
      exact found ⟨current, stored, same⟩
    rw [Store.update_of_changed changed]
    apply agrees_of_refused mirrors
    apply keeps.updateChanged
    intro item present
    rw [written] at present
    obtain ⟨current, stored, rfl⟩ := Option.map_eq_some_iff.mp present
    exact ⟨_, Item.get?_lastExecutedName_ofRecord current, changed current stored⟩

end Step

/-! ## Sequences of calls -/

/-- A record that replaces another one carries the key under which it is stored. -/
def FilesOwn : StoreCall → Prop
  | .update key _ record => record.scope = key
  | _ => True

instance (call : StoreCall) : Decidable (FilesOwn call) :=
  match call with
  | .read _ => .isTrue trivial
  | .create _ => .isTrue trivial
  | .update key _ record => inferInstanceAs (Decidable (record.scope = key))

/-- A call, its reply, and what the store has become. -/
structure Answered (Memory : Type) where
  call : StoreCall
  reply : call.Reply
  memory : Memory

/-- Calls one after the other. -/
def answered {Memory : Type} (behaviour : StoreBehaviour Memory) :
    List StoreCall → Memory → List (Answered Memory)
  | [], _ => []
  | call :: calls, memory =>
    let replied := behaviour call memory
    ⟨call, replied.1, replied.2⟩ :: answered behaviour calls replied.2

/-- The same call has got the same reply, and decoding the items gives the records. -/
inductive SameAnswer {State : Type} (items : State → ItemTable) :
    Answered State → Answered Store → Prop where
  | same (call : StoreCall) (reply : call.Reply) {state : State} {store : Store}
      (decoded : Decodes (items state) store) :
      SameAnswer items ⟨call, reply, state⟩ ⟨call, reply, store⟩

section Run

variable {State : Type} {service : Service State} {settings : Settings}
  {items : State → ItemTable}

theorem agrees_call (keeps : KeepsItems service settings.tableName items)
    (named : Text.isBlank settings.tableName = false) {state : State} {store : Store}
    (mirrors : Mirrors (items state) store) {call : StoreCall} (own : FilesOwn call) :
    Agrees items (throughTable service settings call state) (Store.answer call store) := by
  cases call with
  | read key => exact agrees_read keeps named mirrors key
  | create record => exact agrees_create keeps named mirrors record
  | update key expected record => exact agrees_update keeps named mirrors own expected

/-- By induction on the calls: each of them leaves a table that mirrors the store. -/
theorem answered_of_mirrors (keeps : KeepsItems service settings.tableName items)
    (named : Text.isBlank settings.tableName = false) {calls : List StoreCall}
    (own : ∀ call ∈ calls, FilesOwn call) {state : State} {store : Store}
    (mirrors : Mirrors (items state) store) :
    List.Forall₂ (SameAnswer items) (answered (throughTable service settings) calls state)
      (answered Store.answer calls store) := by
  induction calls generalizing state store with
  | nil => exact .nil
  | cons call calls induction =>
      obtain ⟨ownCall, ownCalls⟩ := List.forall_mem_cons.mp own
      obtain ⟨reply, behind⟩ := agrees_call keeps named mirrors ownCall
      simp only [answered]
      rw [reply]
      constructor
      · exact .same call _ behind.decodes
      · exact induction ownCalls behind

end Run

/-- Calls through a table that is empty at first get the replies that they get from
an empty store in memory, and after each call the items of the table decode to the
records of that store. -/
theorem table_refines_store {State : Type} (service : Service State) (settings : Settings)
    (items : State → ItemTable) (keeps : KeepsItems service settings.tableName items)
    (named : Text.isBlank settings.tableName = false) (state : State)
    (nothing : ∀ key, items state key = none) (calls : List StoreCall)
    (own : ∀ call ∈ calls, FilesOwn call) :
    List.Forall₂ (SameAnswer items) (answered (throughTable service settings) calls state)
      (answered Store.answer calls Store.empty) :=
  answered_of_mirrors keeps named own (.empty nothing)

/-- A table with nothing in it, through which a record is created at the least time,
created once more, replaced at the greatest time, and replaced from a time that it no
longer has; then another scope is read and replaced without a record. -/
theorem table_refines_store_at_extremes :
    let settings : Settings := ⟨60, "schedules", none, .standard⟩
    let key : ScopeKey := ⟨"111111111111-us-east-1"⟩
    let other : ScopeKey := ⟨"-"⟩
    let calls : List StoreCall :=
      [.create ⟨key, Int64.minValue, 0⟩, .create ⟨key, 5, 5⟩,
        .update key Int64.minValue ⟨key, Int64.maxValue, -1⟩, .update key 5 ⟨key, 7, 7⟩,
        .read key, .read other, .update other 0 ⟨other, 1, 1⟩]
    let tabled := answered (throughTable tableService settings) calls ItemTable.empty
    let kept := answered Store.answer calls Store.empty
    (KeepsItems tableService settings.tableName id ∧
      Text.isBlank settings.tableName = false ∧ (∀ call ∈ calls, FilesOwn call)) ∧
    List.Forall₂ (SameAnswer id) tabled kept ∧
      (kept.getLast?.bind fun last => last.memory.get? key) =
        some ⟨key, Int64.maxValue, -1⟩ := by
  intro settings key other calls tabled kept
  have keeps := keepsItems_tableService settings.tableName
  have named : Text.isBlank settings.tableName = false := by decide +kernel
  have own : ∀ call ∈ calls, FilesOwn call := by decide
  refine ⟨⟨keeps, named, own⟩, ?_, by decide +kernel⟩
  exact table_refines_store tableService settings id keeps named ItemTable.empty
    (fun _ => rfl) calls own

end Pacing.Refinement
