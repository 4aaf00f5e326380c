import Pacing.Handling.Batch
import Pacing.Proofs.Notification
import Pacing.Proofs.StoreCalls

/-!
# Indifference to chance and to the recorder

Chance decides how long to pause and the recorder whether a delay was recorded, and
neither of them decides anything else.  Two runs of one handling that differ in this
alone, and in what their stores remember, call the store, the recorder and the
notifier alike as long as their stores reply alike.

Which calls of the store there can be is limited by the scope of the message.  It is
enough that the stores reply alike to calls about this scope, and a message without a
scope calls no store at all.
-/

namespace Pacing

/-- What a store remembers, and the world around it. -/
structure Circumstances (Memory World : Type) where
  memory : Memory
  world : World

/-- Collaborators in a world that moves on with every query.  The clock stands, and
the notifier goes by the call alone; chance and the recorder are free. -/
structure Company (Memory World : Type) where
  store : StoreBehaviour Memory
  now : Int64
  success : ContinuationToken → SuccessCallback → Except NotifyError Unit
  failure : ContinuationToken → FailureCallback → Except NotifyError Unit
  draw : (bound : Nat) → Circumstances Memory World → Fin (bound + 1)
  recorded : Int → Circumstances Memory World → Except MetricsError Unit
  next : Query → Circumstances Memory World → World

namespace Company

variable {Memory World : Type} (company : Company Memory World)

def respond (query : Query) (state : Circumstances Memory World) :
    query.Reply × Circumstances Memory World :=
  let world := company.next query state
  match query with
  | .now => (company.now, { state with world })
  | .draw bound => (company.draw bound state, { state with world })
  | .sleep _ => ((), { state with world })
  | .read key =>
    let replied := company.store (.read key) state.memory
    (replied.1, ⟨replied.2, world⟩)
  | .create record =>
    let replied := company.store (.create record) state.memory
    (replied.1, ⟨replied.2, world⟩)
  | .update key expected record =>
    let replied := company.store (.update key expected record) state.memory
    (replied.1, ⟨replied.2, world⟩)
  | .record delay => (company.recorded delay state, { state with world })
  | .notifySuccess token callback => (company.success token callback, { state with world })
  | .notifyFailure token callback => (company.failure token callback, { state with world })

/-- A store in memory, and others who take whatever they are given. -/
def calm (now : Int64) : Company Store Unit where
  store := Store.answer
  now := now
  success _ _ := .ok ()
  failure _ _ := .ok ()
  draw bound _ := ⟨0, Nat.succ_pos bound⟩
  recorded _ _ := .ok ()
  next _ _ := ()

end Company

namespace Handling

open Notification (Delivery)

variable {Result Further : Type} {scope : Option ScopeKey}

/-! ## Effects -/

/-- What others see of a handling: a call of the store with its reply, the value of a
delay, or a call of the notifier with its reply. -/
inductive Effect where
  | stored (call : StoreCall) (reply : call.Reply)
  | delay (seconds : Int)
  | delivered (delivery : Delivery)

def effect? : Event → Option Effect
  | .exchange (.read key) reply => some (.stored (.read key) reply)
  | .exchange (.create record) reply => some (.stored (.create record) reply)
  | .exchange (.update key expected record) reply =>
    some (.stored (.update key expected record) reply)
  | .exchange (.record delay) _ => some (.delay delay)
  | .exchange (.notifySuccess token callback) reply =>
    some (.delivered (.success token callback reply))
  | .exchange (.notifyFailure token callback) reply =>
    some (.delivered (.failure token callback reply))
  | .exchange .now _ => none
  | .exchange (.draw _) _ => none
  | .exchange (.sleep _) _ => none
  | .note _ => none

def effects (transcript : List Event) : List Effect :=
  transcript.filterMap effect?

theorem effects_cons_of_same {event other : Event} {rest others : List Event}
    (same : effect? event = effect? other) (behind : effects rest = effects others) :
    effects (event :: rest) = effects (other :: others) := by
  unfold effects at behind ⊢
  rw [List.filterMap_cons, List.filterMap_cons, same, behind]

/-! ## Dialogues that are alike -/

/-- A query whose reply may matter: about a scope, to the clock or to the notifier. -/
def Matters (scope : Option ScopeKey) : Query → Prop
  | .now => True
  | .read key => scope = some key
  | .create record => scope = some record.scope
  | .update key _ _ => scope = some key
  | .notifySuccess .. => True
  | .notifyFailure .. => True
  | .draw _ => False
  | .sleep _ => False
  | .record _ => False

/-- Two dialogues go on alike when they get the same replies to the queries that
matter, whatever chance and the recorder reply to each of them. -/
inductive Alike (scope : Option ScopeKey) : Handling Result → Handling Result → Prop where
  | done (result : Result) : Alike scope (.done result) (.done result)
  | tell {note noted : Note} {next other : Handling Result}
      (rest : Alike scope next other) :
      Alike scope (Dialogue.tell note next) (Dialogue.tell noted other)
  | ask {query : Query} {next other : query.Reply → Handling Result}
      (matters : Matters scope query) (rest : ∀ reply, Alike scope (next reply) (other reply)) :
      Alike scope (Dialogue.ask query next) (Dialogue.ask query other)
  | draw {bound : Nat} {next other : Fin (bound + 1) → Handling Result}
      (rest : ∀ drawn redrawn, Alike scope (next drawn) (other redrawn)) :
      Alike scope (Dialogue.ask (.draw bound) next) (Dialogue.ask (.draw bound) other)
  | sleep {span slept : Span} {next other : Unit → Handling Result}
      (rest : ∀ awake, Alike scope (next awake) (other awake)) :
      Alike scope (Dialogue.ask (.sleep span) next) (Dialogue.ask (.sleep slept) other)
  | record {delay : Int} {next other : Except MetricsError Unit → Handling Result}
      (rest : ∀ reply rereply, Alike scope (next reply) (other rereply)) :
      Alike scope (Dialogue.ask (.record delay) next) (Dialogue.ask (.record delay) other)

theorem Alike.bind {dialogue other : Handling Result}
    {proceed onward : Result → Handling Further} (alike : Alike scope dialogue other)
    (further : ∀ result, Alike scope (proceed result) (onward result)) :
    Alike scope (dialogue.bind proceed) (other.bind onward) := by
  induction alike with
  | done result => exact further result
  | tell rest induction => exact .tell induction
  | ask matters rest induction => exact .ask matters induction
  | draw rest induction => exact .draw induction
  | sleep rest induction => exact .sleep induction
  | record rest induction => exact .record induction

/-! ## Runs that agree -/

section Runs

variable {Memory World : Type}

/-- Two memories of a store that are related give the same replies to calls about a
scope, and are related behind each of them. -/
def Respects (store : StoreBehaviour Memory) (scope : Option ScopeKey)
    (related : Memory → Memory → Prop) : Prop :=
  ∀ call memory other, scope = some call.scope → related memory other →
    (store call memory).1 = (store call other).1 ∧
      related (store call memory).2 (store call other).2

structure Agree (related : Memory → Memory → Prop)
    (run other : Dialogue.Run Query Query.Reply Note Result (Circumstances Memory World)) :
    Prop where
  result : run.result = other.result
  effects : effects run.transcript = effects other.transcript
  memory : related run.state.memory other.state.memory

variable {related : Memory → Memory → Prop} {company : Company Memory World}

theorem respond_of_matters (respects : Respects company.store scope related)
    {query : Query} (matters : Matters scope query)
    {state other : Circumstances Memory World} (start : related state.memory other.memory) :
    (company.respond query state).1 = (company.respond query other).1 ∧
      related (company.respond query state).2.memory
        (company.respond query other).2.memory := by
  cases query with
  | now => exact ⟨rfl, start⟩
  | read key => exact respects (.read key) _ _ matters start
  | create record => exact respects (.create record) _ _ matters start
  | update key expected record =>
      exact respects (.update key expected record) _ _ matters start
  | notifySuccess token callback => exact ⟨rfl, start⟩
  | notifyFailure token callback => exact ⟨rfl, start⟩
  | draw bound => exact matters.elim
  | sleep span => exact matters.elim
  | record delay => exact matters.elim

theorem Agree.ask {query again : Query} {next : query.Reply → Handling Result}
    {others : again.Reply → Handling Result} {state other : Circumstances Memory World}
    (same : effect? (.exchange query (company.respond query state).1) =
      effect? (.exchange again (company.respond again other).1))
    (behind : Agree related
      ((next (company.respond query state).1).run company.respond
        (company.respond query state).2)
      ((others (company.respond again other).1).run company.respond
        (company.respond again other).2)) :
    Agree related ((Dialogue.ask query next).run company.respond state)
      ((Dialogue.ask again others).run company.respond other) := by
  constructor
  · exact behind.result
  · exact effects_cons_of_same same behind.effects
  · exact behind.memory

/-- What others see of two runs is the same if their dialogues are alike and their
memories stay related. -/
theorem Alike.agree (respects : Respects company.store scope related)
    {dialogue again : Handling Result} (alike : Alike scope dialogue again)
    {state other : Circumstances Memory World} (start : related state.memory other.memory) :
    Agree related (dialogue.run company.respond state)
      (again.run company.respond other) := by
  induction alike generalizing state other with
  | done result => exact ⟨rfl, rfl, start⟩
  | tell rest induction =>
      obtain ⟨result, visible, memory⟩ := induction start
      exact ⟨result, effects_cons_of_same rfl visible, memory⟩
  | @ask query next others matters rest induction =>
      obtain ⟨reply, behind⟩ := respond_of_matters respects matters start
      apply Agree.ask
      · rw [reply]
      · rw [← reply]
        exact induction _ behind
  | draw rest induction => exact .ask rfl (induction _ _ start)
  | sleep rest induction => exact .ask rfl (induction _ start)
  | record rest induction => exact .ask rfl (induction _ _ start)

end Runs

/-- What is seen of a run: its result and its effects. -/
def seen {State : Type} (run : Dialogue.Run Query Query.Reply Note Result State) :
    Result × List Effect :=
  (run.result, effects run.transcript)

theorem Agree.seen {Memory World : Type} {related : Memory → Memory → Prop}
    {run other : Dialogue.Run Query Query.Reply Note Result (Circumstances Memory World)}
    (agree : Agree related run other) : Handling.seen run = Handling.seen other := by
  simp [Handling.seen, agree.result, agree.effects]

/-! ## Every handling is alike to itself -/

variable {terms : Terms} {key : ScopeKey}

theorem alike_conclude (now plannedAt : Int64) (previous : Option ScheduleRecord)
    (written : Except StoreError Unit) :
    Alike scope (conclude key now plannedAt previous written)
      (conclude key now plannedAt previous written) := by
  unfold conclude
  cases outcomeOf written with
  | error error => exact .done _
  | ok outcome => exact .tell (.done _)

theorem proceedFrom_ok (key : ScopeKey) (threshold : UInt64) (now : Int64)
    (previous : Option ScheduleRecord) :
    proceedFrom key threshold now (.ok previous) = proceed key threshold now previous := rfl

theorem alike_attempt (threshold : UInt64) (now : Int64) :
    Alike (some key) (attempt key threshold now) (attempt key threshold now) := by
  rw [attempt_eq]
  apply Alike.ask
  · exact rfl
  intro answer
  cases answer with
  | error error => exact .done _
  | ok previous =>
      cases previous with
      | none =>
          rw [proceedFrom_ok, proceed_none]
          apply Alike.ask
          · exact rfl
          · exact alike_conclude now now none
      | some record =>
          rw [proceedFrom_ok, proceed_some]
          apply Alike.ask
          · exact rfl
          · exact alike_conclude now _ (some record)

theorem alike_pause (retry : RetryPolicy) (number : Nat) :
    Alike scope (pause retry number) (pause retry number) := by
  apply Alike.draw
  intro drawn redrawn
  exact .sleep fun _ => .done ()

theorem alike_commitFrom (remaining number : Nat) :
    Alike (some key) (commitFrom terms key remaining number)
      (commitFrom terms key remaining number) := by
  induction remaining generalizing number with
  | zero => exact .done _
  | succ remaining induction =>
      rw [Retrying.commitFrom_succ]
      apply Alike.ask
      · trivial
      intro now
      apply (alike_attempt terms.waitThreshold now).bind
      rintro (error | ⟨plannedAt, outcome, previous⟩)
      · exact .done _
      · cases outcome with
        | committed => exact .done _
        | conflict =>
            apply Alike.tell
            cases remaining with
            | zero => exact .done _
            | succ remaining =>
                apply (alike_pause terms.retry number).bind
                intro slept
                exact induction (number + 1)

theorem alike_reportUndelivered (about : Option ScopeKey) (kind : String)
    (error : NotifyError) :
    Alike scope (reportUndelivered about kind error) (reportUndelivered about kind error) :=
  .tell (.done _)

theorem alike_reportFailure (token : ContinuationToken) (about : Option ScopeKey)
    (failure : SchedulerError) :
    Alike scope (reportFailure token about failure) (reportFailure token about failure) := by
  apply Alike.tell
  apply Alike.ask
  · trivial
  rintro (error | ⟨⟩)
  · exact alike_reportUndelivered about "failure" error
  · exact .done _

theorem alike_recordDelay (records : Bool) (plannedAt observedAt : Int64) :
    Alike scope (recordDelay records plannedAt observedAt)
      (recordDelay records plannedAt observedAt) := by
  cases records with
  | false => exact .done _
  | true =>
      apply Alike.record
      rintro (error | ⟨⟩) (other | ⟨⟩)
      all_goals exact .tell (.done _)

theorem alike_commitCallback (request : Request) :
    Alike (some request.scope) (commitCallback terms request)
      (commitCallback terms request) := by
  apply (alike_commitFrom _ _).bind
  rintro (error | slot)
  · exact .done _
  · dsimp only
    cases SuccessCallback.of slot.plannedAt request.details with
    | error error => exact .done _
    | ok callback => exact .done _

theorem alike_handleRequest (request : Request) :
    Alike (some request.scope) (handleRequest terms request) (handleRequest terms request) := by
  apply (alike_commitCallback request).bind
  rintro (error | ⟨slot, callback⟩)
  · exact alike_reportFailure request.token (some request.scope) error
  · apply (alike_recordDelay terms.records slot.plannedAt request.observedAt).bind
    intro recorded
    apply Alike.ask
    · trivial
    rintro (error | ⟨⟩)
    · exact alike_reportUndelivered (some request.scope) "success" error
    · exact .tell (.done _)

/-! ## Messages -/

/-- The request in a body is the same at any time, but for the time itself. -/
theorem read_observedAt (body : String) (observedAt : Int64) :
    Request.read body observedAt =
      (Request.read body 0).map fun request => { request with observedAt } := by
  unfold Request.read
  cases Json.read body with
  | error defect => rfl
  | ok value =>
      simp only [Request.ofJson, Request.ofFields]
      cases Message.ofJson value with
      | error error => rfl
      | ok message =>
          cases Request.requireToken (ContinuationToken.ofJson? value) with
          | error error => rfl
          | ok token =>
              dsimp only [bind, Except.bind]
              cases ScopeKey.ofNames (message.account.getD "") (message.region.getD "") with
              | error error => rfl
              | ok scope => cases Request.requireDetails message.details <;> rfl

/-- The scope of the request in the body of a message, if there is a request. -/
def scopeOf (message : QueuedMessage) : Option ScopeKey :=
  message.body.bind fun body => (Request.read body 0).toOption.map Request.scope

theorem scopeOf_of_read {message : QueuedMessage} {body : String}
    (hasBody : message.body = some body) (observedAt : Int64) :
    scopeOf message = (Request.read body observedAt).toOption.map Request.scope := by
  rw [scopeOf, hasBody, Option.bind_some, read_observedAt body observedAt]
  cases Request.read body 0 <;> rfl

theorem alike_handleMessage (body : String) (observedAt : Int64) :
    Alike ((Request.read body observedAt).toOption.map Request.scope)
      (handleMessage terms body observedAt) (handleMessage terms body observedAt) := by
  unfold handleMessage
  rcases Request.read body observedAt with ⟨token, error⟩ | request
  · cases token with
    | none => exact .tell (.done _)
    | some token => exact alike_reportFailure token none error
  · exact alike_handleRequest request

theorem alike_arrival (message : QueuedMessage) :
    Alike scope (arrival message) (arrival message) := by
  unfold arrival
  cases message.sentAt with
  | some sentAt => exact .done sentAt
  | none =>
      apply Alike.ask
      · trivial
      · exact fun now => .done now

theorem alike_handleBody (message : QueuedMessage) (observedAt : Int64) :
    Alike (scopeOf message) (handleBody terms message observedAt)
      (handleBody terms message observedAt) := by
  unfold handleBody
  cases hasBody : message.body with
  | none => exact .tell (.done _)
  | some body =>
      rw [scopeOf_of_read hasBody observedAt]
      exact alike_handleMessage body observedAt

/-- The handling of a message calls the store about the scope of the message only, and
is the same whatever chance and the recorder reply. -/
theorem alike_handleQueued (terms : Terms) (message : QueuedMessage) :
    Alike (scopeOf message) (handleQueued terms message) (handleQueued terms message) := by
  apply (alike_arrival message).bind
  intro observedAt
  apply (alike_handleBody message observedAt).bind
  intro disposition
  exact .tell (.done disposition)

end Handling

end Pacing
