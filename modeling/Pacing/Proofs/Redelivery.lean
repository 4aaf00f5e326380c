import Pacing.Proofs.Recorder
import Pacing.Proofs.Refinement
import Pacing.Remote.Payload

/-!
# Requests that are delivered again

A client sends a request once more when the reply to it is lost, and takes the reply
that arrives in the end for the answer.  A conditional write cannot be repeated like
this: what the first delivery has written is what the second one is refused for, and
the refusal looks as if another writer had been there.

The account that holds all the same: of the deliveries that a table has applied, one
is known for each success, and the replies to all others have been lost.  So where no
reply to a write is lost, a conflict means that nothing was written, and a commit
takes one slot.
-/

namespace Pacing

namespace Remote.ServiceRequest

/-- Whether a request writes an item. -/
def writes : ServiceRequest → Bool
  | .putItem .. => true
  | .updateItem .. => true
  | _ => false

/-- Whether a reply acknowledges that a request has written its item. -/
def acknowledgedBy : (request : ServiceRequest) → request.Reply → Bool
  | .putItem .., .ok () => true
  | .updateItem .., .ok () => true
  | _, _ => false

theorem acknowledgedBy_of_not_writes {request : ServiceRequest}
    (reads : request.writes = false) (reply : request.Reply) :
    request.acknowledgedBy reply = false := by
  cases request with
  | putItem => cases reads
  | updateItem => cases reads
  | _ => rfl

theorem acknowledgedBy_lost (request : ServiceRequest) :
    request.acknowledgedBy (request.readResponse .lost) = false := by
  cases request <;> rfl

end Remote.ServiceRequest

namespace Redelivery

open Remote Handling
open Refinement (Service Accepted Refused tableService)

variable {State : Type}

/-! ## Deliveries -/

/-- How a request passes.  It is delivered again as long as the reply to it is lost, and
before each delivery others can do something to the service. -/
structure Passage (State : Type) where
  /-- What others do before each of the deliveries whose reply is lost. -/
  lost : List (State → State)
  /-- What others do before the delivery whose reply arrives, unless the client gives
  up. -/
  last : Option (State → State)

structure Delivery (State : Type) where
  request : ServiceRequest
  reply : request.Reply
  found : State
  left : State
  /-- Whether the reply has arrived. -/
  arrived : Bool

/-- Whether the service has written the item of a request. -/
def Delivery.applied (delivery : Delivery State) : Bool :=
  delivery.request.acknowledgedBy delivery.reply

/-- Whether an item was written and the reply that tells it was lost. -/
def Delivery.unnoticed (delivery : Delivery State) : Bool :=
  delivery.applied && !delivery.arrived

/-- A request that has passed: the reply that the client takes, and the deliveries. -/
structure Carried (State : Type) (request : ServiceRequest) where
  reply : request.Reply
  state : State
  deliveries : List (Delivery State)

def deliver (service : Service State) (request : ServiceRequest) (arrived : Bool)
    (found : State) : Delivery State :=
  let sent := service (.send request) found
  ⟨request, sent.1, found, sent.2, arrived⟩

def carry (service : Service State) (request : ServiceRequest)
    (last : Option (State → State)) :
    (lost : List (State → State)) → State → Carried State request
  | [], state =>
    match last with
    | none => ⟨request.readResponse .lost, state, []⟩
    | some before =>
      let sent := service (.send request) (before state)
      ⟨sent.1, sent.2, [deliver service request true (before state)]⟩
  | before :: others, state =>
    let delivery := deliver service request false (before state)
    let rest := carry service request last others delivery.left
    { rest with deliveries := delivery :: rest.deliveries }

/-- A service and the deliveries that were made to it. -/
structure Exposed (State : Type) where
  state : State
  deliveries : List (Delivery State)

/-- A service as its client sees it. -/
def client (service : Service State) (passage : ServiceRequest → State → Passage State) :
    Service (Exposed State)
  | .send request, exposed =>
    let way := passage request exposed.state
    let carried := carry service request way.last way.lost exposed.state
    (carried.reply, ⟨carried.state, exposed.deliveries ++ carried.deliveries⟩)
  | query, exposed =>
    let replied := service query exposed.state
    (replied.1, { exposed with state := replied.2 })

/-! ## Tables that write at once -/

/-- A write is executed as a whole, and its condition decides. -/
inductive Executed (condition : Condition) (before behind : ItemTable) (key : String)
    (item : Item) (reply : Except ServiceFailure Unit) : Prop where
  | accepted (holds : condition.holds (before key) = true)
      (accepted : Accepted reply before behind key item)
  | refused (fails : condition.holds (before key) = false)
      (refused : Refused reply before behind)

theorem Executed.accepts {condition : Condition} {before behind : ItemTable} {key : String}
    {item : Item} {reply : Except ServiceFailure Unit}
    (executed : Executed condition before behind key item reply)
    (held : condition.holds (before key) = true) :
    reply = .ok () ∧ behind = before.put key item := by
  cases executed with
  | accepted holds accepted => exact ⟨accepted.acknowledged, accepted.filed⟩
  | refused fails refused => cases held.symm.trans fails

theorem Executed.refuses {condition : Condition} {before behind : ItemTable} {key : String}
    {item : Item} {reply : Except ServiceFailure Unit}
    (executed : Executed condition before behind key item reply)
    (failed : condition.holds (before key) = false) :
    (∃ detail, reply = .error ⟨some Table.conditionFailedName, detail⟩) ∧ behind = before := by
  cases executed with
  | accepted holds accepted => cases failed.symm.trans holds
  | refused fails refused => exact ⟨refused.named, refused.unchanged⟩

/-- A service executes the writes to a table, each delivery as a whole, and what is not a
write changes no item of it.  The writes are those of a schedule store: a put is guarded
by the absence of an attribute, and an update by the equality of a time. -/
structure ExecutesWrites (service : Service State) (table : String)
    (items : State → ItemTable) : Prop where
  put : ∀ item key sign state, item.key? = some key →
    let condition := Condition.absent sign
    let sent := service (.send (.putItem table item condition)) state
    Executed condition (items state) (items sent.2) key item sent.1
  update : ∀ key assignments sign mark expected state,
    let condition := Condition.equals sign ⟨mark, .ofTime expected⟩
    let current := (items state key).getD [(Item.partitionKey, .text key)]
    let sent := service (.send (.updateItem table key assignments condition)) state
    Executed condition (items state) (items sent.2) key (current.assign assignments) sent.1
  other : ∀ request state, request.writes = false →
    items (service (.send request) state).2 = items state

theorem executed_writeIf (table : ItemTable) (condition : Condition) (key : String)
    (item : Item) :
    let written := table.writeIf condition key item
    Executed condition table written.2 key item written.1 := by
  cases holds : condition.holds (table key) with
  | true => exact .accepted holds (Refinement.writeIf_of_holds holds item)
  | false => exact .refused holds (Refinement.writeIf_of_fails holds item)

theorem executesWrites_tableService (name : String) :
    ExecutesWrites tableService name id where
  put item key sign table keyed := by
    simp only [tableService, Refinement.execute_putItem keyed, id]
    exact executed_writeIf table (.absent sign) key item
  update key assignments sign mark expected table :=
    executed_writeIf table (.equals sign ⟨mark, .ofTime expected⟩) key _
  other request table reads := by
    cases request with
    | putItem => cases reads
    | updateItem => cases reads
    | _ => rfl

/-- Whether a table is without an item for the scope of a record. -/
def isAbsent (table : ItemTable) (record : ScheduleRecord) : Bool :=
  (Condition.absent Table.keySign).holds (table record.scope.text)

/-- Whether the item of a scope has the expected time. -/
def isUnchanged (table : ItemTable) (key : ScopeKey) (expected : Int64) : Bool :=
  (Condition.equals Table.lastExecutedSign ⟨":expected", .ofTime expected⟩).holds
    (table key.text)

/-- An item with the times of a record. -/
def renewed (current : Item) (record : ScheduleRecord) : Item :=
  current.assign
    [⟨Table.lastExecutedSign, ⟨":next", .ofTime record.lastExecutedAt⟩⟩,
      ⟨Table.expirySign, ⟨":ttl", .ofTime record.expiresAt⟩⟩]

theorem isAbsent_created (table : ItemTable) (record : ScheduleRecord) :
    isAbsent (table.put record.scope.text (Item.ofRecord record)) record = false := by
  simp [isAbsent, Condition.holds, Table.keySign, Item.get?_partitionKey_ofRecord]

/-- Behind an update the item has the time of the record. -/
theorem isUnchanged_renewed (table : ItemTable) (key : ScopeKey) (expected : Int64)
    (record : ScheduleRecord) (current : Item) :
    isUnchanged (table.put key.text (renewed current record)) key expected =
      decide (record.lastExecutedAt = expected) := by
  have time : (renewed current record).get? Item.lastExecutedName =
      some (.ofTime record.lastExecutedAt) := by
    simp [renewed, Item.assign, Item.get?_set, Table.lastExecutedSign, Table.expirySign,
      Item.lastExecutedName, Item.expiryName]
  rw [Bool.eq_iff_iff, decide_eq_true_iff, ← AttributeValue.agrees_ofTime]
  simp [isUnchanged, Condition.holds, Table.lastExecutedSign, time]

theorem acknowledgedBy_create (table : String) (record : ScheduleRecord)
    (reply : Except ServiceFailure Unit) :
    (Table.createRequest table record).acknowledgedBy reply = reply.isOk := by
  cases reply <;> rfl

theorem acknowledgedBy_update (table : String) (key : ScopeKey) (expected : Int64)
    (record : ScheduleRecord) (reply : Except ServiceFailure Unit) :
    (Table.updateRequest table key expected record).acknowledgedBy reply = reply.isOk := by
  cases reply <;> rfl

/-- A delivery is applied if a condition holds of the table, which may hold again behind
it.  Otherwise it changes nothing. -/
structure Guarded (service : Service State) (items : State → ItemTable)
    (request : ServiceRequest) (holds : ItemTable → Bool) (again : Bool) : Prop where
  accepts : ∀ state, holds (items state) = true →
    let delivery := deliver service request false state
    delivery.applied = true ∧ holds (items delivery.left) = again
  refuses : ∀ state, holds (items state) = false →
    let delivery := deliver service request false state
    delivery.applied = false ∧ items delivery.left = items state

section Executes

variable {service : Service State} {table : String} {items : State → ItemTable}

theorem ExecutesWrites.executed_create (executes : ExecutesWrites service table items)
    (record : ScheduleRecord) (state : State) :
    let sent : Except ServiceFailure Unit × State :=
      service (.send (Table.createRequest table record)) state
    Executed (.absent Table.keySign) (items state) (items sent.2) record.scope.text
      (Item.ofRecord record) sent.1 :=
  executes.put (Item.ofRecord record) _ _ state (Item.key?_ofRecord record)

theorem ExecutesWrites.executed_update (executes : ExecutesWrites service table items)
    (key : ScopeKey) (expected : Int64) (record : ScheduleRecord) (state : State) :
    let current := (items state key.text).getD [(Item.partitionKey, .text key.text)]
    let sent : Except ServiceFailure Unit × State :=
      service (.send (Table.updateRequest table key expected record)) state
    Executed (.equals Table.lastExecutedSign ⟨":expected", .ofTime expected⟩) (items state)
      (items sent.2) key.text (renewed current record) sent.1 :=
  executes.update key.text _ _ _ expected state

theorem guarded_create (executes : ExecutesWrites service table items)
    (record : ScheduleRecord) :
    Guarded service items (Table.createRequest table record) (isAbsent · record) false := by
  constructor
  · intro state absent
    obtain ⟨acknowledged, filed⟩ := (executes.executed_create record state).accepts absent
    constructor
    · exact (acknowledgedBy_create table record _).trans (congrArg Except.isOk acknowledged)
    · exact (congrArg (isAbsent · record) filed).trans (isAbsent_created _ record)
  · intro state taken
    obtain ⟨⟨detail, isRefusal⟩, unchanged⟩ :=
      (executes.executed_create record state).refuses taken
    constructor
    · exact (acknowledgedBy_create table record _).trans (congrArg Except.isOk isRefusal)
    · exact unchanged

theorem guarded_update (executes : ExecutesWrites service table items) (key : ScopeKey)
    (expected : Int64) (record : ScheduleRecord) :
    Guarded service items (Table.updateRequest table key expected record)
      (isUnchanged · key expected) (record.lastExecutedAt = expected) := by
  constructor
  · intro state same
    obtain ⟨acknowledged, filed⟩ :=
      (executes.executed_update key expected record state).accepts same
    constructor
    · exact (acknowledgedBy_update table key expected record _).trans
        (congrArg Except.isOk acknowledged)
    · exact (congrArg (isUnchanged · key expected) filed).trans
        (isUnchanged_renewed _ key expected record _)
  · intro state changed
    obtain ⟨⟨detail, isRefusal⟩, unchanged⟩ :=
      (executes.executed_update key expected record state).refuses changed
    constructor
    · exact (acknowledgedBy_update table key expected record _).trans
        (congrArg Except.isOk isRefusal)
    · exact unchanged

end Executes

/-! ## The account of deliveries -/

/-- Of the deliveries that were applied so many are known, and the replies to all others
were lost.  What was not applied changed nothing. -/
structure Accounted (items : State → ItemTable) (known : Nat)
    (deliveries : List (Delivery State)) : Prop where
  applied : deliveries.countP Delivery.applied =
    deliveries.countP Delivery.unnoticed + known
  kept : ∀ delivery ∈ deliveries, delivery.applied = false →
    items delivery.left = items delivery.found

section Account

variable {service : Service State} {table : String} {items : State → ItemTable}

theorem Accounted.nil : Accounted items 0 [] := by
  constructor
  · rfl
  · intro delivery member
    cases member

theorem Accounted.single {delivery : Delivery State}
    (kept : delivery.applied = false → items delivery.left = items delivery.found) :
    Accounted items (delivery.applied && delivery.arrived).toNat [delivery] := by
  constructor
  · rw [List.countP_singleton, List.countP_singleton, Delivery.unnoticed]
    cases delivery.applied <;> cases delivery.arrived <;> rfl
  · intro other member
    obtain rfl := List.mem_singleton.mp member
    exact kept

theorem Accounted.append {known more : Nat} {earlier later : List (Delivery State)}
    (account : Accounted items known earlier) (further : Accounted items more later) :
    Accounted items (known + more) (earlier ++ later) := by
  have first := account.applied
  have second := further.applied
  constructor
  · rw [List.countP_append, List.countP_append]
    omega
  · intro delivery member
    rcases List.mem_append.mp member with before | behind
    · exact account.kept delivery before
    · exact further.kept delivery behind

/-- A request changes no item unless it acknowledges that it has written its own. -/
def Keeps (service : Service State) (items : State → ItemTable) (request : ServiceRequest) :
    Prop :=
  ∀ state, request.acknowledgedBy (service (.send request) state).1 = false →
    items (service (.send request) state).2 = items state

theorem keeps_of_not_writes (executes : ExecutesWrites service table items)
    {request : ServiceRequest} (reads : request.writes = false) :
    Keeps service items request :=
  fun state _ => executes.other request state reads

theorem Guarded.keeps {request : ServiceRequest} {holds : ItemTable → Bool} {again : Bool}
    (guarded : Guarded service items request holds again) : Keeps service items request := by
  intro state unacknowledged
  cases held : holds (items state) with
  | true => cases unacknowledged.symm.trans (guarded.accepts state held).1
  | false => exact (guarded.refuses state held).2

/-- By induction on the deliveries whose replies are lost.  All of them that were applied
are unnoticed, so the reply that arrives tells of one at most. -/
theorem accounted_carry {request : ServiceRequest} (keeps : Keeps service items request)
    (last : Option (State → State)) (lost : List (State → State)) (state : State) :
    let carried := carry service request last lost state
    Accounted items (request.acknowledgedBy carried.reply).toNat carried.deliveries := by
  induction lost generalizing state with
  | nil =>
      cases last with
      | none =>
          simp only [carry, ServiceRequest.acknowledgedBy_lost]
          exact .nil
      | some before =>
          let delivery := deliver service request true (before state)
          have account : Accounted items (delivery.applied && true).toNat [delivery] :=
            .single (keeps (before state))
          rwa [Bool.and_true] at account
  | cons before others induction =>
      let delivery := deliver service request false (before state)
      have account : Accounted items (delivery.applied && false).toNat [delivery] :=
        .single (keeps (before state))
      rw [Bool.and_false] at account
      have further := account.append (induction delivery.left)
      rwa [Bool.toNat_false, Nat.zero_add] at further

end Account

/-! ## The account of a run -/

/-- Whether an event is a write of the store that was acknowledged. -/
def acknowledged (event : Event) : Bool :=
  (written? event).isSome

theorem countP_cons_toNat {Item : Type} (holds : Item → Bool) (item : Item)
    (rest : List Item) :
    (item :: rest).countP holds = (holds item).toNat + rest.countP holds := by
  rw [List.countP_cons]
  cases holds item with
  | true => exact Nat.add_comm _ _
  | false => exact (Nat.zero_add _).symm

section Run

variable {service : Service State} {items : State → ItemTable} {settings : Settings}
  {passage : ServiceRequest → State → Passage State} {Result : Type}

/-- How the collaborators behave, for all that the handling of messages can tell. -/
def behave (service : Service State) (passage : ServiceRequest → State → Passage State)
    (settings : Settings) (query : Pacing.Query) (exposed : Exposed State) :
    query.Reply × Exposed State :=
  let run := (Remote.answer settings query).run (client service passage) exposed
  (run.result, run.state)

/-- A part of a run has made deliveries of which so many are known. -/
def Makes (items : State → ItemTable) (known : Nat) (before behind : Exposed State) : Prop :=
  ∃ made, behind.deliveries = before.deliveries ++ made ∧ Accounted items known made

theorem Makes.nothing {before behind : Exposed State}
    (same : behind.deliveries = before.deliveries) : Makes items 0 before behind :=
  ⟨[], by rw [same, List.append_nil], .nil⟩

theorem Makes.trans {known more : Nat} {first second third : Exposed State}
    (makes : Makes items known first second) (further : Makes items more second third) :
    Makes items (known + more) first third := by
  obtain ⟨made, isSecond, account⟩ := makes
  obtain ⟨later, isThird, rest⟩ := further
  refine ⟨made ++ later, ?_, account.append rest⟩
  rw [isThird, isSecond, List.append_assoc]

theorem makes_send (passage : ServiceRequest → State → Passage State)
    {request : ServiceRequest} (keeps : Keeps service items request)
    (exposed : Exposed State) :
    Makes items
      (request.acknowledgedBy (client service passage (.send request) exposed).1).toNat
      exposed (client service passage (.send request) exposed).2 :=
  ⟨_, rfl, accounted_carry keeps _ _ exposed.state⟩

theorem makes_of_not_writes (passage : ServiceRequest → State → Passage State)
    (executes : ExecutesWrites service table items) {request : ServiceRequest}
    (reads : request.writes = false) (exposed : Exposed State) :
    Makes items 0 exposed (client service passage (.send request) exposed).2 := by
  have keeps := keeps_of_not_writes executes reads
  have makes := makes_send passage keeps exposed
  rwa [ServiceRequest.acknowledgedBy_of_not_writes reads] at makes

theorem isOk_writeReply (rejection : StoreError) (action : String)
    (reply : Except ServiceFailure Unit) :
    (Table.writeReply rejection action reply).isOk = reply.isOk := by
  cases reply with
  | ok => rfl
  | error failure =>
      unfold Table.writeReply
      dsimp only
      split <;> rfl

theorem acknowledged_create (record : ScheduleRecord) (reply : Except StoreError Unit) :
    acknowledged (.exchange (.create record) reply) = reply.isOk := by
  rcases reply with error | ⟨⟩ <;> rfl

theorem acknowledged_update (key : ScopeKey) (expected : Int64) (record : ScheduleRecord)
    (reply : Except StoreError Unit) :
    acknowledged (.exchange (.update key expected record) reply) = reply.isOk := by
  rcases reply with error | ⟨⟩ <;> rfl

theorem behave_create (named : Text.isBlank settings.tableName = false)
    (record : ScheduleRecord) (exposed : Exposed State) :
    let request := Table.createRequest settings.tableName record
    let sent : Except ServiceFailure Unit × Exposed State :=
      client service passage (.send request) exposed
    behave service passage settings (.create record) exposed =
      (Table.writeReply (.alreadyExists record.scope.text) "create" sent.1, sent.2) :=
  Refinement.throughTable_create named record exposed

theorem behave_update (named : Text.isBlank settings.tableName = false) (key : ScopeKey)
    (expected : Int64) (record : ScheduleRecord) (exposed : Exposed State) :
    let request := Table.updateRequest settings.tableName key expected record
    let sent : Except ServiceFailure Unit × Exposed State :=
      client service passage (.send request) exposed
    behave service passage settings (.update key expected record) exposed =
      (Table.writeReply (.conditionFailed key.text) "update" sent.1, sent.2) :=
  Refinement.throughTable_update named key expected record exposed

/-- What the reply to a query tells of the deliveries that it has led to. -/
def Tells (items : State → ItemTable) (query : Pacing.Query) (exposed : Exposed State)
    (replied : query.Reply × Exposed State) : Prop :=
  Makes items (acknowledged (.exchange query replied.1)).toNat exposed replied.2

variable (executes : ExecutesWrites service settings.tableName items)
  (named : Text.isBlank settings.tableName = false)

include executes named

theorem tells_create (record : ScheduleRecord) (exposed : Exposed State) :
    Tells items (.create record) exposed
      (behave service passage settings (.create record) exposed) := by
  rw [behave_create named, Tells]
  dsimp only
  rw [acknowledged_create, isOk_writeReply,
    ← acknowledgedBy_create settings.tableName record]
  exact makes_send passage (guarded_create executes record).keeps exposed

theorem tells_update (key : ScopeKey) (expected : Int64) (record : ScheduleRecord)
    (exposed : Exposed State) :
    Tells items (.update key expected record) exposed
      (behave service passage settings (.update key expected record) exposed) := by
  rw [behave_update named, Tells]
  dsimp only
  rw [acknowledged_update, isOk_writeReply,
    ← acknowledgedBy_update settings.tableName key expected record]
  exact makes_send passage
    (guarded_update executes key expected record).keeps exposed

/-- The reply to a query tells of a delivery that was applied exactly if it acknowledges
a write. -/
theorem tells_behave (query : Pacing.Query) (exposed : Exposed State) :
    Tells items query exposed (behave service passage settings query exposed) := by
  cases query with
  | read key =>
      have through : behave service passage settings (.read key) exposed = _ :=
        Refinement.throughTable_read named key exposed
      rw [through]
      exact makes_of_not_writes passage executes rfl exposed
  | create record => exact tells_create executes named record exposed
  | update key expected record =>
      exact tells_update executes named key expected record exposed
  | record delay => exact makes_of_not_writes passage executes rfl exposed
  | notifySuccess token callback => exact makes_of_not_writes passage executes rfl exposed
  | notifyFailure token callback => exact makes_of_not_writes passage executes rfl exposed
  | _ => exact .nothing rfl

/-- By induction on the dialogue: every query adds what its reply tells of. -/
theorem makes_run (dialogue : Handling Result) (exposed : Exposed State) :
    let run := dialogue.run (behave service passage settings) exposed
    Makes items (run.transcript.countP acknowledged) exposed run.state := by
  induction dialogue generalizing exposed with
  | done result => exact .nothing rfl
  | ask query next induction =>
      let replied := behave service passage settings query exposed
      have tells : Tells items query exposed replied :=
        tells_behave executes named query exposed
      have makes := Makes.trans tells (induction replied.1 replied.2)
      rwa [← countP_cons_toNat] at makes
  | tell note next induction => exact induction exposed

end Run

/-! ## Attempts and commits -/

section Counts

variable {key : ScopeKey} {threshold : UInt64} {now : Int64} {terms : Terms}
  {transcript : List Event}

/-- Whether an attempt has committed its slot. -/
def commits : Except SchedulerError Decision → Bool
  | .ok decision => decision.outcome = .committed
  | .error _ => false

theorem countP_calls (transcript : List Event) :
    (calls transcript).countP acknowledged = transcript.countP acknowledged := by
  rw [calls, List.countP_filter]
  apply List.countP_congr
  intro event _
  rw [Bool.and_eq_true, and_iff_left_iff_imp]
  intro isAcknowledged
  obtain ⟨record, written⟩ := Option.isSome_iff_exists.mp isAcknowledged
  exact Recording.isCall_of_written written

theorem acknowledged_writeCall (previous : Option ScheduleRecord)
    (written : Except StoreError Unit) :
    acknowledged (Retrying.writeCall key threshold now previous written) =
      written.isOk := by
  cases previous with
  | none => exact acknowledged_create _ written
  | some current => exact acknowledged_update key _ _ written

theorem countP_attemptCalls (previous : Option ScheduleRecord)
    (written : Except StoreError Unit) :
    (Retrying.attemptCalls key threshold now previous written).countP acknowledged =
      written.isOk.toNat := by
  rw [Retrying.attemptCalls, countP_cons_toNat, countP_cons_toNat, countP_cons_toNat,
    acknowledged_writeCall]
  simp [acknowledged, written?]

theorem countP_attempt {ended : Except SchedulerError Decision}
    (yields : (attempt key threshold now).Yields transcript ended) :
    transcript.countP acknowledged = (commits ended).toNat := by
  rw [← countP_calls]
  rcases Retrying.attempt_yields yields with ⟨error, called, rfl⟩ |
    ⟨previous, written, called, rfl⟩
  · rw [called]
    rfl
  · rw [called, countP_cons_toNat, countP_cons_toNat, acknowledged_writeCall]
    rcases written with error | ⟨⟩
    · unfold outcomeOf
      cases conflict : error.isWriteConflict <;> simp [conflict] <;> rfl
    · rfl

theorem countP_lost (lost : List Retrying.LostAttempt) :
    (lost.flatMap (Retrying.LostAttempt.calls key threshold)).countP acknowledged = 0 := by
  induction lost with
  | nil => rfl
  | cons first others induction =>
      rw [List.flatMap_cons, List.countP_append, Retrying.LostAttempt.calls,
        List.countP_append, countP_attemptCalls, induction]
      rfl

theorem countP_last {number : Nat} {last : List Event} {result : Except SchedulerError Slot}
    (ending : Retrying.LastAttempt terms key number last result) :
    last.countP acknowledged = result.isOk.toNat := by
  cases ending with
  | unread now blamed => rfl
  | _ => exact countP_attemptCalls _ _

theorem countP_commit {result : Except SchedulerError Slot}
    (yields : (commit terms key).Yields transcript result) :
    transcript.countP acknowledged = result.isOk.toNat := by
  rw [← countP_calls]
  rcases Retrying.commit_cases yields with
    ⟨rfl, rfl⟩ | ⟨lost, last, number, called, ending⟩
  · rfl
  · rw [called, List.countP_append, countP_lost, countP_last ending, Nat.zero_add]

end Counts

/-! ## Nobody else around -/

/-- Nobody else does anything, and so many replies to each request are lost before one
arrives. -/
def undisturbed (lost : Nat) (_ : ServiceRequest) (_ : State) : Passage State :=
  ⟨List.replicate lost id, some id⟩

section Undisturbed

variable {service : Service State} {items : State → ItemTable}

/-- The deliveries of one write, by induction on the replies that are lost.  What
decides is whether its condition holds, and whether it holds again behind the write. -/
theorem carry_replicate {request : ServiceRequest} {holds : ItemTable → Bool} {again : Bool}
    (guarded : Guarded service items request holds again) (lost : Nat) (state : State) :
    let carried := carry service request (some id) (List.replicate lost id) state
    request.acknowledgedBy carried.reply = (holds (items state) && (lost = 0 || again)) ∧
      carried.deliveries.countP Delivery.applied =
        if holds (items state) then if again then lost + 1 else 1 else 0 := by
  induction lost generalizing state with
  | zero =>
      let delivery := deliver service request true state
      have counted : [delivery].countP Delivery.applied = delivery.applied.toNat :=
        countP_cons_toNat Delivery.applied delivery []
      cases held : holds (items state) with
      | true =>
          have applied : delivery.applied = true := (guarded.accepts state held).1
          rw [applied] at counted
          refine ⟨applied, counted.trans ?_⟩
          cases again <;> rfl
      | false =>
          have unapplied : delivery.applied = false := (guarded.refuses state held).1
          rw [unapplied] at counted
          exact ⟨unapplied, counted⟩
  | succ lost induction =>
      let delivery := deliver service request false state
      let rest := carry service request (some id) (List.replicate lost id) delivery.left
      have counted : (delivery :: rest.deliveries).countP Delivery.applied =
          delivery.applied.toNat + rest.deliveries.countP Delivery.applied :=
        countP_cons_toNat Delivery.applied delivery rest.deliveries
      obtain ⟨replied, further⟩ := induction delivery.left
      rw [further] at counted
      cases held : holds (items state) with
      | true =>
          have applied : delivery.applied = true := (guarded.accepts state held).1
          have behind : holds (items delivery.left) = again := (guarded.accepts state held).2
          rw [applied, behind] at counted
          rw [behind] at replied
          refine ⟨replied.trans ?_, counted.trans ?_⟩
          · cases again <;> simp
          · cases again <;> simp [Nat.add_comm]
      | false =>
          have unapplied : delivery.applied = false := (guarded.refuses state held).1
          have behind : holds (items delivery.left) = false :=
            (congrArg holds (guarded.refuses state held).2).trans held
          rw [unapplied, behind] at counted
          rw [behind] at replied
          exact ⟨replied, counted⟩

/-- A write is not acknowledged if its condition does not hold, or if a reply was lost and
the condition does not hold again behind the write. -/
theorem carry_unacknowledged {request : ServiceRequest} {holds : ItemTable → Bool}
    {again : Bool} (guarded : Guarded service items request holds again) (lost : Nat)
    (state : State) :
    let carried := carry service request (some id) (List.replicate lost id) state
    request.acknowledgedBy carried.reply = false ↔
      holds (items state) = false ∨ lost ≠ 0 ∧ again = false := by
  intro carried
  rw [(carry_replicate guarded lost state).1]
  cases holds (items state) <;> simp

/-- The reply that arrives is one that the service gave. -/
theorem carry_reply (request : ServiceRequest) (before : State → State)
    (lost : List (State → State)) (state : State) :
    ∃ found, (carry service request (some before) lost state).reply =
      (service (.send request) found).1 := by
  induction lost generalizing state with
  | nil => exact ⟨before state, rfl⟩
  | cons other others induction => exact induction _

theorem writeReply_executed {condition : Condition} {before behind : ItemTable}
    {key : String} {item : Item} {reply : Except ServiceFailure Unit}
    (executed : Executed condition before behind key item reply) (rejection : StoreError)
    (action : String) :
    Table.writeReply rejection action reply = .error rejection ↔ reply.isOk = false := by
  cases executed with
  | accepted holds accepted =>
      rw [accepted.acknowledged]
      exact ⟨nofun, nofun⟩
  | refused fails refused =>
      rw [Refinement.writeReply_refused refused]
      obtain ⟨detail, isRefusal⟩ := refused.named
      rw [isRefusal]
      exact ⟨fun _ => rfl, fun _ => rfl⟩

variable {settings : Settings}

/-- A record is created once if nothing is there, and is reported as taken if something
is there or if a reply was lost. -/
theorem create_undisturbed (executes : ExecutesWrites service settings.tableName items)
    (named : Text.isBlank settings.tableName = false) (record : ScheduleRecord)
    (lost : Nat) (state : State) :
    let run := (Table.create settings.tableName record).run
      (client service (undisturbed lost)) ⟨state, []⟩
    let absent := isAbsent (items state) record
    (run.result = .error (.alreadyExists record.scope.text) ↔ absent = false ∨ lost ≠ 0) ∧
      run.state.deliveries.countP Delivery.applied = if absent then 1 else 0 := by
  intro run absent
  let request := Table.createRequest settings.tableName record
  let carried := carry service request (some id) (List.replicate lost id) state
  let reply : Except ServiceFailure Unit := carried.reply
  have through : (run.result, run.state) = (Table.writeReply
      (.alreadyExists record.scope.text) "create" reply, ⟨carried.state, carried.deliveries⟩) :=
    behave_create named record ⟨state, []⟩
  obtain ⟨answered, made⟩ := Prod.mk.inj through
  have guarded := guarded_create executes record
  obtain ⟨found, isReply⟩ : ∃ found, reply = (service (.send request) found).1 :=
    carry_reply request id (List.replicate lost id) state
  have rejected := writeReply_executed (executes.executed_create record found)
    (.alreadyExists record.scope.text) "create"
  constructor
  · rw [answered]
    refine (isReply ▸ rejected).trans ?_
    rw [← acknowledgedBy_create settings.tableName record]
    simpa using carry_unacknowledged guarded lost state
  · rw [made]
    exact (carry_replicate guarded lost state).2

/-- A record is updated if the item has the expected time, and once more for every reply
that is lost if that time is also the new one.  Otherwise a lost reply is reported as a
change by somebody else. -/
theorem update_undisturbed (executes : ExecutesWrites service settings.tableName items)
    (named : Text.isBlank settings.tableName = false) (key : ScopeKey) (expected : Int64)
    (record : ScheduleRecord) (lost : Nat) (state : State) :
    let run := (Table.update settings.tableName key expected record).run
      (client service (undisturbed lost)) ⟨state, []⟩
    let unchanged := isUnchanged (items state) key expected
    (run.result = .error (.conditionFailed key.text) ↔
        unchanged = false ∨ lost ≠ 0 ∧ record.lastExecutedAt ≠ expected) ∧
      run.state.deliveries.countP Delivery.applied =
        if unchanged then if record.lastExecutedAt = expected then lost + 1 else 1 else 0 := by
  intro run unchanged
  let request := Table.updateRequest settings.tableName key expected record
  let carried := carry service request (some id) (List.replicate lost id) state
  let reply : Except ServiceFailure Unit := carried.reply
  have through : (run.result, run.state) = (Table.writeReply (.conditionFailed key.text)
      "update" reply, ⟨carried.state, carried.deliveries⟩) :=
    behave_update named key expected record ⟨state, []⟩
  obtain ⟨answered, made⟩ := Prod.mk.inj through
  have guarded := guarded_update executes key expected record
  obtain ⟨found, isReply⟩ : ∃ found, reply = (service (.send request) found).1 :=
    carry_reply request id (List.replicate lost id) state
  have rejected := writeReply_executed (executes.executed_update key expected record found)
    (.conditionFailed key.text) "update"
  constructor
  · rw [answered]
    refine (isReply ▸ rejected).trans ?_
    rw [← acknowledgedBy_update settings.tableName key expected record]
    simpa using carry_unacknowledged guarded lost state
  · rw [made]
    simpa only [decide_eq_true_eq] using (carry_replicate guarded lost state).2

end Undisturbed

/-! ## What a conflict means -/

/-- No reply to a write that was applied is lost. -/
def Noticed (deliveries : List (Delivery State)) : Prop :=
  ∀ delivery ∈ deliveries, delivery.unnoticed = false

/-- What a result tells of the deliveries behind it. -/
structure Explained (items : State → ItemTable) (succeeded : Bool)
    (deliveries : List (Delivery State)) : Prop where
  /-- A success stands for one write, and the replies to all others were lost. -/
  applied : deliveries.countP Delivery.applied =
    deliveries.countP Delivery.unnoticed + succeeded.toNat
  once : Noticed deliveries → deliveries.countP Delivery.applied = succeeded.toNat
  untouched : succeeded = false → Noticed deliveries →
    ∀ delivery ∈ deliveries, items delivery.left = items delivery.found

section Conflicts

variable {service : Service State} {items : State → ItemTable} {settings : Settings}
  {passage : ServiceRequest → State → Passage State}

theorem Accounted.explained {succeeded : Bool} {deliveries : List (Delivery State)}
    (account : Accounted items succeeded.toNat deliveries) :
    Explained items succeeded deliveries := by
  have once (noticed : Noticed deliveries) :
      deliveries.countP Delivery.applied = succeeded.toNat := by
    have none : deliveries.countP Delivery.unnoticed = 0 :=
      List.countP_eq_zero.mpr fun delivery member =>
        Bool.not_eq_true _ ▸ noticed delivery member
    rw [account.applied, none, Nat.zero_add]
  constructor
  · exact account.applied
  · exact once
  · intro failed noticed delivery member
    have unapplied : deliveries.countP Delivery.applied = 0 := by
      rw [once noticed, failed]
      rfl
    apply account.kept delivery member
    exact Bool.not_eq_true _ ▸ List.countP_eq_zero.mp unapplied delivery member

theorem explained_of_makes {succeeded : Bool} {state : State} {behind : Exposed State}
    (makes : Makes items succeeded.toNat ⟨state, []⟩ behind) :
    Explained items succeeded behind.deliveries := by
  obtain ⟨made, isMade, account⟩ := makes
  rw [isMade]
  exact account.explained

/-- A part of the handling of messages is accounted for if it succeeds exactly if it is
told of one write. -/
theorem explained_serve (executes : ExecutesWrites service settings.tableName items)
    (named : Text.isBlank settings.tableName = false) {Result : Type}
    {dialogue : Handling Result} (succeeds : Result → Bool)
    (told : ∀ {transcript result}, dialogue.Yields transcript result →
      transcript.countP acknowledged = (succeeds result).toNat) (state : State) :
    let run := (serve settings dialogue).run (client service passage) ⟨state, []⟩
    Explained items (succeeds run.result) run.state.deliveries := by
  intro run
  let outer := dialogue.run (behave service passage settings) ⟨state, []⟩
  obtain ⟨sameResult, sameState⟩ : run.result = outer.result ∧ run.state = outer.state :=
    Dialogue.run_interpret (Remote.answer settings) (client service passage) dialogue _
  have makes : Makes items (outer.transcript.countP acknowledged) ⟨state, []⟩ outer.state :=
    makes_run executes named dialogue ⟨state, []⟩
  rw [told (Dialogue.yields_run ..)] at makes
  rw [sameResult, sameState]
  exact explained_of_makes makes

end Conflicts

/-- Of the writes that a table applies one is known for each success of its caller, and
the replies to all others were lost, whatever else happens between the deliveries: this
holds of single writes, of attempts and of commits.  Where nobody else does anything, a
create is refused if the scope was taken or if a reply was lost, and so is an update,
unless its time is the one that it expects. -/
theorem conflicts_explained (service : Service State) (settings : Settings)
    (items : State → ItemTable) (executes : ExecutesWrites service settings.tableName items)
    (named : Text.isBlank settings.tableName = false)
    (passage : ServiceRequest → State → Passage State) (state : State) :
    (∀ record,
      let run := (Table.create settings.tableName record).run (client service passage)
        ⟨state, []⟩
      Explained items run.result.isOk run.state.deliveries) ∧
    (∀ key expected record,
      let run := (Table.update settings.tableName key expected record).run
        (client service passage) ⟨state, []⟩
      Explained items run.result.isOk run.state.deliveries) ∧
    (∀ key threshold now,
      let run := (serve settings (attempt key threshold now)).run (client service passage)
        ⟨state, []⟩
      Explained items (commits run.result) run.state.deliveries) ∧
    (∀ terms key,
      let run := (serve settings (commit terms key)).run (client service passage) ⟨state, []⟩
      Explained items run.result.isOk run.state.deliveries) ∧
    (∀ record lost,
      let run := (Table.create settings.tableName record).run
        (client service (undisturbed lost)) ⟨state, []⟩
      let absent := isAbsent (items state) record
      (run.result = .error (.alreadyExists record.scope.text) ↔
          absent = false ∨ lost ≠ 0) ∧
        run.state.deliveries.countP Delivery.applied = if absent then 1 else 0) ∧
    (∀ key expected record lost,
      let run := (Table.update settings.tableName key expected record).run
        (client service (undisturbed lost)) ⟨state, []⟩
      let unchanged := isUnchanged (items state) key expected
      (run.result = .error (.conditionFailed key.text) ↔
          unchanged = false ∨ lost ≠ 0 ∧ record.lastExecutedAt ≠ expected) ∧
        run.state.deliveries.countP Delivery.applied =
          if unchanged then if record.lastExecutedAt = expected then lost + 1 else 1
          else 0) := by
  refine ⟨?create, ?update, ?attempt, ?commit, ?created, ?updated⟩
  case create =>
    intro record
    have tells : Tells items (.create record) ⟨state, []⟩
        (behave service passage settings (.create record) ⟨state, []⟩) :=
      tells_create executes named record ⟨state, []⟩
    rw [Tells, acknowledged_create] at tells
    exact explained_of_makes tells
  case update =>
    intro key expected record
    have tells : Tells items (.update key expected record) ⟨state, []⟩
        (behave service passage settings (.update key expected record) ⟨state, []⟩) :=
      tells_update executes named key expected record ⟨state, []⟩
    rw [Tells, acknowledged_update] at tells
    exact explained_of_makes tells
  case attempt =>
    intro key threshold now
    exact explained_serve executes named commits countP_attempt state
  case commit =>
    intro terms key
    exact explained_serve executes named Except.isOk countP_commit state
  case created =>
    intro record lost
    exact create_undisturbed executes named record lost state
  case updated =>
    intro key expected record lost
    exact update_undisturbed executes named key expected record lost state

/-- A commit whose first create is delivered again takes two slots, and has the later
one. -/
theorem conflicts_explained_of_two_slots :
    let settings : Settings := ⟨60, "schedules", none, .standard⟩
    let key : ScopeKey := ⟨"111111111111-us-east-1"⟩
    let passage (request : ServiceRequest) (_ : ItemTable) : Passage ItemTable :=
      match request with
      | .putItem .. => ⟨[id], some id⟩
      | _ => ⟨[], some id⟩
    let run := (serve settings (commit (terms settings) key)).run
      (client tableService passage) ⟨ItemTable.empty, []⟩
    (ExecutesWrites tableService settings.tableName id ∧ Text.isBlank settings.tableName = false) ∧
    Explained id run.result.isOk run.state.deliveries ∧
      run.state.deliveries.countP Delivery.applied = 2 ∧
      run.result.toOption = some ⟨60, 2⟩ := by
  intro settings key passage run
  have named : Text.isBlank settings.tableName = false := by decide +kernel
  obtain ⟨-, -, -, explained, -⟩ := conflicts_explained tableService settings id
    (executesWrites_tableService _) named passage ItemTable.empty
  refine ⟨⟨executesWrites_tableService _, named⟩, explained (terms settings) key, ?_, ?_⟩
  · decide +kernel
  · decide +kernel

/-- A create is refused because of what it has written itself, where its first reply is
lost. -/
theorem refused_by_own_write :
    ¬ ∀ (name : String) (record : ScheduleRecord) (lost : Nat) (table : ItemTable),
      let run := (Table.create name record).run (client tableService (undisturbed lost))
        ⟨table, []⟩
      run.result = .error (.alreadyExists record.scope.text) →
        run.state.deliveries.countP Delivery.applied = 0 := by
  intro claim
  let settings : Settings := ⟨60, "schedules", none, .standard⟩
  let record : ScheduleRecord := ⟨⟨"111111111111-us-east-1"⟩, 1000, 1060⟩
  have named : Text.isBlank settings.tableName = false := by decide +kernel
  obtain ⟨refused, counted⟩ :=
    create_undisturbed (executesWrites_tableService _) named record 1 ItemTable.empty
  have none := claim settings.tableName record 1 ItemTable.empty (refused.mpr (.inr nofun))
  rw [counted] at none
  exact absurd none (by decide)

end Redelivery

end Pacing
