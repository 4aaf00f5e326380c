import Mathlib.Data.List.Forall2
import Mathlib.Data.List.Perm.Basic
import Pacing.Handling.Batch
import Pacing.Proofs.Notification

/-!
# Conservation of batches

An event that is no batch of the queue fails as a whole, before anybody is asked
anything.  The handling of a batch is the handling of its records one after the
other, each from where the one before it has ended.  So every record is counted
once, and its notification does not depend on the records before it.
-/

namespace Pacing.Batches

open Handling Notification

/-! ## Events of the queue -/

def FromQueue (record : Json) : Prop :=
  ∃ fields, record = .object fields ∧
    Json.Members.get? fields "eventSource" = some (.string "aws:sqs")

/-- An event that holds records of the queue, and nothing but such records. -/
inductive IsBatch (records : List Json) : Json → Prop where
  | intro {members : Json.Members} (listed : members.get? "Records" = some (.array records))
      (filled : records ≠ []) (fromQueue : ∀ record ∈ records, FromQueue record) :
      IsBatch records (.object members)

theorem isFromQueue_iff (record : Json) :
    QueuedMessage.isFromQueue record = true ↔ FromQueue record := by
  unfold QueuedMessage.isFromQueue
  constructor
  · intro accepted
    split at accepted
    · next source found =>
        cases record with
        | object fields =>
            have isQueue : source = "aws:sqs" := by simpa using accepted
            exact ⟨fields, rfl, isQueue ▸ found⟩
        | _ => cases found
    · cases accepted
  · rintro ⟨fields, rfl, found⟩
    rw [show (Json.object fields).member? "eventSource" = _ from found]
    simp

instance (record : Json) : Decidable (FromQueue record) :=
  decidable_of_iff _ (isFromQueue_iff record)

theorem IsBatch.records_eq {records : List Json} {event : Json}
    (batch : IsBatch records event) : QueuedMessage.records event = records := by
  obtain ⟨listed, -, -⟩ := batch
  simp [QueuedMessage.records, Json.member?, Json.members?, listed, Json.items?]

theorem isQueueEvent_iff (event : Json) :
    QueuedMessage.isQueueEvent event = true ↔ ∃ records, IsBatch records event := by
  constructor
  · intro accepted
    simp only [QueuedMessage.isQueueEvent, Bool.and_eq_true, Bool.not_eq_true',
      List.all_eq_true, isFromQueue_iff] at accepted
    obtain ⟨notEmpty, fromQueue⟩ := accepted
    have filled : QueuedMessage.records event ≠ [] := by
      intro empty
      simp [empty] at notEmpty
    refine ⟨QueuedMessage.records event, ?_⟩
    cases event with
    | object members =>
        refine .intro ?_ filled fromQueue
        simp only [QueuedMessage.records, Json.member?, Json.members?,
          Option.bind_some] at filled ⊢
        cases found : Json.Members.get? members "Records" with
        | none => simp [found] at filled
        | some value =>
            cases value with
            | array items => rfl
            | _ => simp [found, Json.items?] at filled
    | _ => exact absurd rfl filled
  · rintro ⟨records, batch⟩
    have listed := batch.records_eq
    obtain ⟨-, filled, fromQueue⟩ := batch
    simp only [QueuedMessage.isQueueEvent, listed, Bool.and_eq_true, Bool.not_eq_true',
      List.all_eq_true, isFromQueue_iff]
    exact ⟨by simpa using filled, fromQueue⟩

theorem ofEvent_of_batch {records : List Json} {event : Json}
    (batch : IsBatch records event) :
    QueuedMessage.ofEvent event = .ok (records.map QueuedMessage.ofRecord) := by
  unfold QueuedMessage.ofEvent
  rw [if_pos ((isQueueEvent_iff event).mpr ⟨records, batch⟩), batch.records_eq]

theorem ofEvent_of_no_batch {event : Json} (noBatch : ∀ records, ¬ IsBatch records event) :
    QueuedMessage.ofEvent event = .error .notQueueEvent := by
  apply if_neg
  rw [isQueueEvent_iff]
  rintro ⟨records, batch⟩
  exact noBatch records batch

/-- A record of the queue with nothing but a body. -/
def recordOf (body : Json) : Json :=
  .object [("body", body), ("eventSource", .string "aws:sqs")]

/-- A record with a request that has no details. -/
def requestRecord (account region token : String) : Json :=
  let message := Json.object
    [("AccountId", .string account), ("ContinuationToken", .string token),
      ("RemediationDetails", .object []), ("ResourceRegion", .string region)]
  recordOf (.string message.compact)

def eventOf (records : List Json) : Json :=
  .object [("Records", .array records)]

theorem isBatch_eventOf {records : List Json} (filled : records ≠ [])
    (fromQueue : ∀ record ∈ records, FromQueue record) : IsBatch records (eventOf records) :=
  .intro (by simp [Json.Members.get?]) filled fromQueue

/-! ## Messages in a row -/

section Runs

variable {State : Type} (respond : (query : Query) → State → query.Reply × State)
  (terms : Terms)

/-- The run of each message, from where the run of the one before it has ended. -/
def handlings : List QueuedMessage → State →
    List (Dialogue.Run Query Query.Reply Note Disposition State)
  | [], _ => []
  | message :: others, state =>
    let run := (handleQueued terms message).run respond state
    run :: handlings others run.state

/-- Where the handling of messages ends. -/
def stateBehind (messages : List QueuedMessage) (state : State) : State :=
  messages.foldl (fun state message =>
    ((handleQueued terms message).run respond state).state) state

theorem handlings_cons (message : QueuedMessage) (others : List QueuedMessage)
    (state : State) :
    handlings respond terms (message :: others) state =
      (handleQueued terms message).run respond state ::
        handlings respond terms others
          ((handleQueued terms message).run respond state).state := rfl

theorem stateBehind_cons (message : QueuedMessage) (others : List QueuedMessage)
    (state : State) :
    stateBehind respond terms (message :: others) state =
      stateBehind respond terms others
        ((handleQueued terms message).run respond state).state := rfl

@[simp] theorem length_handlings (messages : List QueuedMessage) (state : State) :
    (handlings respond terms messages state).length = messages.length := by
  induction messages generalizing state with
  | nil => rfl
  | cons message others induction => simp [handlings_cons, induction]

theorem getElem?_handlings (messages : List QueuedMessage) (state : State) (index : Nat) :
    (handlings respond terms messages state)[index]? = messages[index]?.map fun message =>
      (handleQueued terms message).run respond
        (stateBehind respond terms (messages.take index) state) := by
  induction messages generalizing state index with
  | nil => rfl
  | cons message messages induction =>
      cases index with
      | zero => rfl
      | succ index =>
          rw [handlings_cons, List.getElem?_cons_succ, List.getElem?_cons_succ,
            List.take_succ_cons, stateBehind_cons]
          exact induction _ _

/-- By induction on the messages, each of which is handled before the others. -/
theorem run_handleAll (messages : List QueuedMessage) (state : State) :
    (handleAll terms messages).run respond state =
      { result := (handlings respond terms messages state).map Dialogue.Run.result
        state := stateBehind respond terms messages state
        transcript :=
          (handlings respond terms messages state).flatMap Dialogue.Run.transcript } := by
  induction messages generalizing state with
  | nil => rfl
  | cons message others induction =>
      simp only [handleAll, Dialogue.monadBind_eq_bind, Dialogue.pure_eq_done,
        Dialogue.run_bind, Dialogue.run_done, induction, handlings_cons, stateBehind_cons,
        List.map_cons, List.flatMap_cons, List.append_nil]

theorem run_handleEvent {records : List Json} {event : Json} (batch : IsBatch records event)
    (state : State) :
    let messages := records.map QueuedMessage.ofRecord
    (handleEvent terms event).run respond state =
      { result := .ok (.ofDispositions
          ((handlings respond terms messages state).map Dialogue.Run.result))
        state := stateBehind respond terms messages state
        transcript :=
          (handlings respond terms messages state).flatMap Dialogue.Run.transcript } := by
  intro messages
  simp only [handleEvent, ofEvent_of_batch batch, Dialogue.monadBind_eq_bind,
    Dialogue.pure_eq_done, Dialogue.run_bind, Dialogue.run_done, run_handleAll,
    List.append_nil]
  rfl

theorem run_handleEvent_of_no_batch {event : Json}
    (noBatch : ∀ records, ¬ IsBatch records event) (state : State) :
    (handleEvent terms event).run respond state =
      ⟨.error .notQueueEvent, state, []⟩ := by
  simp only [handleEvent, ofEvent_of_no_batch noBatch, Dialogue.pure_eq_done,
    Dialogue.run_done]

end Runs

/-! ## Counts -/

/-- The ways in which messages end. -/
inductive Ending where
  | scheduled
  | failureReported
  | dropped
  | callbackUndelivered
  deriving DecidableEq, Repr

def endingOf : Disposition → Ending
  | .scheduled .. => .scheduled
  | .failureReported _ => .failureReported
  | .dropped _ => .dropped
  | .callbackUndelivered _ => .callbackUndelivered

/-- The number of messages that ended in a given way. -/
def counted (tally : Tally) : Ending → Nat
  | .scheduled => tally.scheduled
  | .failureReported => tally.failuresReported
  | .dropped => tally.dropped
  | .callbackUndelivered => tally.callbacksUndelivered

theorem counted_add (tally : Tally) (disposition : Disposition) (ending : Ending) :
    counted (tally.add disposition) ending =
      counted tally ending + if endingOf disposition = ending then 1 else 0 := by
  cases disposition <;> cases ending <;> rfl

theorem counted_foldl (dispositions : List Disposition) (tally : Tally) (ending : Ending) :
    counted (dispositions.foldl Tally.add tally) ending =
      counted tally ending + (dispositions.map endingOf).count ending := by
  induction dispositions generalizing tally with
  | nil => rfl
  | cons disposition others induction =>
      rw [List.foldl_cons, induction, counted_add, List.map_cons, List.count_cons]
      by_cases same : endingOf disposition = ending
      · simp [same, Nat.add_assoc, Nat.add_comm]
      · simp [same]

theorem counted_ofDispositions (dispositions : List Disposition) (ending : Ending) :
    counted (.ofDispositions dispositions) ending =
      (dispositions.map endingOf).count ending := by
  have zero : counted .zero ending = 0 := by cases ending <;> rfl
  rw [Tally.ofDispositions, counted_foldl, zero, Nat.zero_add]

theorem ofDispositions_of_perm {dispositions others : List Disposition}
    (perm : dispositions.Perm others) :
    Tally.ofDispositions dispositions = Tally.ofDispositions others := by
  have commutes : RightCommutative Tally.add := by
    constructor
    intro tally first second
    cases first <;> cases second <;> rfl
  exact perm.foldl_eq _

theorem total_foldl (dispositions : List Disposition) (tally : Tally) :
    (dispositions.foldl Tally.add tally).total = tally.total + dispositions.length := by
  induction dispositions generalizing tally with
  | nil => rfl
  | cons disposition others induction =>
      rw [List.foldl_cons, induction, Tally.total_add, List.length_cons]
      omega

theorem total_ofDispositions (dispositions : List Disposition) :
    (Tally.ofDispositions dispositions).total = dispositions.length := by
  rw [Tally.ofDispositions, total_foldl]
  exact Nat.zero_add _

/-- A batch has the same status whatever became of its messages. -/
theorem status_ofDispositions (dispositions : List Disposition) :
    (Tally.ofDispositions dispositions).status = "ok" := by
  have kept (tally : Tally) :
      (dispositions.foldl Tally.add tally).status = tally.status := by
    induction dispositions generalizing tally with
    | nil => rfl
    | cons disposition others induction =>
        rw [List.foldl_cons, induction, Tally.status_add]
  exact kept .zero

/-! ## Notifications -/

/-- A record has a text as its body, from which a token can be recovered. -/
def NamesToken (record : Json) (token : ContinuationToken) : Prop :=
  ∃ fields body, record = .object fields ∧
    Json.Members.get? fields "body" = some (.string body) ∧ Recoverable body token

/-- The calls of the notifier that a record leads to: one for its token, or none. -/
structure Answers (record : Json) (delivered : List Delivery) : Prop where
  one : ∀ token, NamesToken record token →
    ∃ delivery, delivered = [delivery] ∧ delivery.token = token
  none : (∀ token, ¬ NamesToken record token) → delivered = []

theorem body_ofRecord_iff (record : Json) (body : String) :
    (QueuedMessage.ofRecord record).body = some body ↔
      ∃ fields, record = .object fields ∧
        Json.Members.get? fields "body" = some (.string body) := by
  simp only [QueuedMessage.ofRecord, Option.bind_eq_some_iff]
  constructor
  · rintro ⟨value, found, isText⟩
    cases record with
    | object fields =>
        cases value with
        | string text =>
            cases isText
            exact ⟨fields, rfl, found⟩
        | _ => cases isText
    | _ => cases found
  · rintro ⟨fields, rfl, found⟩
    exact ⟨_, found, rfl⟩

theorem namesToken_iff (record : Json) (token : ContinuationToken) :
    NamesToken record token ↔
      ∃ body, (QueuedMessage.ofRecord record).body = some body ∧ Recoverable body token := by
  simp only [body_ofRecord_iff, NamesToken]
  constructor
  · rintro ⟨fields, body, isObject, found, recoverable⟩
    exact ⟨body, ⟨fields, isObject, found⟩, recoverable⟩
  · rintro ⟨body, ⟨fields, isObject, found⟩, recoverable⟩
    exact ⟨fields, body, isObject, found, recoverable⟩

section Yields

variable {terms : Terms} {transcript : List Event} {disposition : Disposition}

theorem arrival_yields {message : QueuedMessage} {observedAt : Int64}
    (yields : (arrival message).Yields transcript observedAt) :
    transcript = [] ∨ ∃ now, transcript = [.exchange .now now] := by
  unfold arrival at yields
  cases sent : message.sentAt with
  | some sentAt =>
      rw [sent] at yields
      exact .inl (Dialogue.Yields.done_cases yields).1
  | none =>
      rw [sent] at yields
      obtain ⟨now, rest, rfl, behind⟩ := Dialogue.Yields.ask_cases yields
      obtain ⟨rfl, -⟩ := behind.done_cases
      exact .inr ⟨now, rfl⟩

/-- Around the handling of the body of a message there is nothing but a look at the
clock and notes. -/
theorem handleQueued_yields {message : QueuedMessage}
    (yields : (handleQueued terms message).Yields transcript disposition) :
    ∃ observedAt before handling noted,
      (handleBody terms message observedAt).Yields handling disposition ∧
        transcript = before ++ (handling ++ [.note noted]) ∧
        (before = [] ∨ ∃ now, before = [.exchange .now now]) := by
  obtain ⟨before, observedAt, later, rfl, arriving, behind⟩ :=
    Dialogue.Yields.bind_cases yields
  obtain ⟨handling, handled, last, rfl, handles, ending⟩ :=
    Dialogue.Yields.bind_cases behind
  obtain ⟨noted, rfl, done⟩ := Dialogue.Yields.tell_cases ending
  obtain ⟨rfl, rfl⟩ := Dialogue.Yields.done_cases done
  exact ⟨observedAt, before, handling, _, handles, rfl, arrival_yields arriving⟩

theorem dropBodiless_yields {id : Option String}
    (yields : (dropBodiless id).Yields transcript disposition) :
    transcript = [.note (.bodyMissing id)] ∧
      disposition = .dropped "record has no string body" := by
  obtain ⟨rest, rfl, behind⟩ := Dialogue.Yields.tell_cases yields
  obtain ⟨rfl, rfl⟩ := Dialogue.Yields.done_cases behind
  exact ⟨rfl, rfl⟩

theorem deliveries_handleQueued {message : QueuedMessage}
    (yields : (handleQueued terms message).Yields transcript disposition) :
    ∃ observedAt handling, (handleBody terms message observedAt).Yields handling disposition ∧
      deliveries transcript = deliveries handling := by
  obtain ⟨observedAt, before, handling, noted, handles, rfl, looking⟩ :=
    handleQueued_yields yields
  have silent : deliveries before = [] := by
    rcases looking with rfl | ⟨now, rfl⟩
    · rfl
    · rfl
  refine ⟨observedAt, handling, handles, ?_⟩
  rw [deliveries_append, deliveries_append, silent]
  exact List.append_nil _

theorem answers_of_bodiless {record : Json}
    (bodiless : (QueuedMessage.ofRecord record).body = none) : Answers record [] := by
  constructor
  · intro token named
    obtain ⟨body, isBody, -⟩ := (namesToken_iff record token).mp named
    cases bodiless.symm.trans isBody
  · intro unnamed
    rfl

theorem answers_of_body {record : Json} {body : String} {observedAt : Int64}
    (hasBody : (QueuedMessage.ofRecord record).body = some body)
    (handles : (handleMessage terms body observedAt).Yields transcript disposition) :
    Answers record (deliveries transcript) := by
  have names : ∀ token, NamesToken record token ↔ Recoverable body token := by
    intro token
    simp [namesToken_iff, hasBody]
  rcases handleMessage_cases handles with ⟨token, delivery, recoverable, once⟩ |
    ⟨unrecoverable, unasked, -⟩
  · constructor
    · intro other named
      cases (recoverable other).mp ((names other).mp named)
      exact ⟨delivery, once.deliveries_eq, once.addressed⟩
    · intro unnamed
      exact absurd ((names token).mpr ((recoverable token).mpr rfl)) (unnamed token)
  · constructor
    · intro token named
      exact absurd ((names token).mp named) (unrecoverable token)
    · intro unnamed
      exact deliveries_of_unasked unasked

theorem answers_of_yields {record : Json}
    (yields : (handleQueued terms (QueuedMessage.ofRecord record)).Yields transcript
      disposition) :
    Answers record (deliveries transcript) := by
  obtain ⟨observedAt, handling, handles, delivered⟩ := deliveries_handleQueued yields
  rw [delivered]
  unfold handleBody at handles
  cases hasBody : (QueuedMessage.ofRecord record).body with
  | none =>
      rw [hasBody] at handles
      obtain ⟨rfl, -⟩ := dropBodiless_yields handles
      exact answers_of_bodiless hasBody
  | some body =>
      rw [hasBody] at handles
      exact answers_of_body hasBody handles

end Yields

theorem deliveries_flatMap {State : Type}
    (runs : List (Dialogue.Run Query Query.Reply Note Disposition State)) :
    deliveries (runs.flatMap Dialogue.Run.transcript) =
      runs.flatMap fun run => deliveries run.transcript := by
  induction runs with
  | nil => rfl
  | cons run runs induction =>
      rw [List.flatMap_cons, deliveries_append, induction, List.flatMap_cons]

theorem answers_handlings {State : Type}
    (respond : (query : Query) → State → query.Reply × State) (terms : Terms)
    (records : List Json) (state : State) :
    List.Forall₂ (fun record run => Answers record (deliveries run.transcript)) records
      (handlings respond terms (records.map QueuedMessage.ofRecord) state) := by
  induction records generalizing state with
  | nil => exact .nil
  | cons record others induction =>
      rw [List.map_cons, handlings_cons]
      constructor
      · exact answers_of_yields (Dialogue.yields_run respond _ state)
      · exact induction _

/-- An event that is no batch of the queue fails, and nobody is asked anything.  A
batch is handled record by record: what happens is what happens for each record, in
their order and from where the record before has ended; every record is counted by
its disposition; and a record leads to one call of the notifier, for its token, or to
none if no token can be recovered from it. -/
theorem batch_conserved {State : Type}
    (respond : (query : Query) → State → query.Reply × State) (state : State)
    (terms : Terms) (event : Json) :
    let run := (handleEvent terms event).run respond state
    ((∀ records, ¬ IsBatch records event) → run = ⟨.error .notQueueEvent, state, []⟩) ∧
    ∀ records, IsBatch records event →
      let messages := records.map QueuedMessage.ofRecord
      let handled := handlings respond terms messages state
      run.transcript = handled.flatMap Dialogue.Run.transcript ∧
      run.state = stateBehind respond terms messages state ∧
      deliveries run.transcript =
        handled.flatMap (fun run => deliveries run.transcript) ∧
      List.Forall₂ (fun record run => Answers record (deliveries run.transcript))
        records handled ∧
      ∃ tally, run.result = .ok tally ∧ tally.status = "ok" ∧
        tally.total = records.length ∧
        ∀ ending, counted tally ending =
          (handled.map fun run => endingOf run.result).count ending := by
  intro run
  constructor
  · intro noBatch
    exact run_handleEvent_of_no_batch respond terms noBatch state
  · intro records batch messages handled
    have handledAll : run = _ := run_handleEvent respond terms batch state
    refine ⟨congrArg Dialogue.Run.transcript handledAll,
      congrArg Dialogue.Run.state handledAll, ?_,
      answers_handlings respond terms records state,
      _, congrArg Dialogue.Run.result handledAll, status_ofDispositions _, ?_, ?_⟩
    · rw [handledAll]
      exact deliveries_flatMap handled
    · simp [total_ofDispositions]
    · intro ending
      rw [counted_ofDispositions, List.map_map]
      rfl

end Pacing.Batches
