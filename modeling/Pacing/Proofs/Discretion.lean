import Mathlib.Data.List.Forall2
import Pacing.Handling.Rehearsal
import Pacing.Proofs.Batches
import Pacing.Proofs.RoundTrip

/-!
# Continuation tokens are kept to the notifier

Whoever holds the token of a workflow can resume it, so a token goes to the notifier and
nowhere else.  Two messages that differ in their tokens alone are handled alike: the log
tells the same of both, everybody is asked the same, and the notifier is told the same for
the one token as for the other.

Where a message is rejected the reason may quote the message, so the argument begins with
the reading: it looks at the token last of all and puts nothing but its absence into words.
-/

namespace Pacing.Discretion

open Handling Notification

variable {State Result Further : Type}

/-! ## Dialogues that differ in tokens -/

/-- Collaborators that reply to a notification whatever token it is for.  What else they
go by is free, so they may give any replies one after the other. -/
def Blind (respond : (query : Query) → State → query.Reply × State) : Prop :=
  ∀ (token other : ContinuationToken) (state : State),
    (∀ callback, respond (.notifySuccess token callback) state =
      respond (.notifySuccess other callback) state) ∧
    ∀ callback, respond (.notifyFailure token callback) state =
      respond (.notifyFailure other callback) state

/-- An event without the token in it. -/
def veiled : Event → Event
  | .exchange (.notifySuccess _ callback) reply =>
    .exchange (.notifySuccess ⟨""⟩ callback) reply
  | .exchange (.notifyFailure _ callback) reply =>
    .exchange (.notifyFailure ⟨""⟩ callback) reply
  | event => event

/-- Two dialogues that tell and ask the same, but for the tokens of notifications. -/
inductive SameButTokens : Handling Result → Handling Result → Prop where
  | done (result : Result) : SameButTokens (.done result) (.done result)
  | tell (note : Note) {next other : Handling Result} (rest : SameButTokens next other) :
      SameButTokens (Dialogue.tell note next) (Dialogue.tell note other)
  | ask (query : Query) {next other : query.Reply → Handling Result}
      (rest : ∀ reply, SameButTokens (next reply) (other reply)) :
      SameButTokens (Dialogue.ask query next) (Dialogue.ask query other)
  | success (token retoken : ContinuationToken) (callback : SuccessCallback)
      {next other : Except NotifyError Unit → Handling Result}
      (rest : ∀ reply, SameButTokens (next reply) (other reply)) :
      SameButTokens (Dialogue.ask (.notifySuccess token callback) next)
        (Dialogue.ask (.notifySuccess retoken callback) other)
  | failure (token retoken : ContinuationToken) (callback : FailureCallback)
      {next other : Except NotifyError Unit → Handling Result}
      (rest : ∀ reply, SameButTokens (next reply) (other reply)) :
      SameButTokens (Dialogue.ask (.notifyFailure token callback) next)
        (Dialogue.ask (.notifyFailure retoken callback) other)

theorem SameButTokens.refl (dialogue : Handling Result) : SameButTokens dialogue dialogue := by
  induction dialogue with
  | done result => exact .done result
  | ask query next induction => exact .ask query induction
  | tell note next induction => exact .tell note induction

theorem SameButTokens.bind {dialogue other : Handling Result}
    {proceed onward : Result → Handling Further} (same : SameButTokens dialogue other)
    (further : ∀ result, SameButTokens (proceed result) (onward result)) :
    SameButTokens (dialogue.bind proceed) (other.bind onward) := by
  induction same with
  | done result => exact further result
  | tell note rest induction => exact .tell note induction
  | ask query rest induction => exact .ask query induction
  | success token retoken callback rest induction =>
      exact .success token retoken callback induction
  | failure token retoken callback rest induction =>
      exact .failure token retoken callback induction

/-- Two runs that nobody but the notifier can tell apart. -/
structure Indistinct (run other : Dialogue.Run Query Query.Reply Note Result State) : Prop where
  result : run.result = other.result
  state : run.state = other.state
  /-- The log lines, with all of their fields. -/
  lines : (Dialogue.notes run.transcript).map Note.line =
    (Dialogue.notes other.transcript).map Note.line
  /-- All that is asked, replied and told, in its order. -/
  transcript : run.transcript.map veiled = other.transcript.map veiled

theorem notes_veiled (transcript : List Event) :
    Dialogue.notes (transcript.map veiled) = Dialogue.notes transcript := by
  unfold Dialogue.notes
  rw [List.filterMap_map]
  refine congrArg (fun choose => List.filterMap choose transcript) (funext fun event => ?_)
  rcases event with ⟨query, reply⟩ | note
  · cases query <;> rfl
  · rfl

theorem Indistinct.of_veiled {run other : Dialogue.Run Query Query.Reply Note Result State}
    (result : run.result = other.result) (state : run.state = other.state)
    (transcript : run.transcript.map veiled = other.transcript.map veiled) :
    Indistinct run other := by
  refine ⟨result, state, ?_, transcript⟩
  rw [← notes_veiled, transcript, notes_veiled]

/-- Both runs go on from one state, since the only replies that could differ are those to
the notifications, and these do not depend on the token. -/
theorem SameButTokens.indistinct {respond : (query : Query) → State → query.Reply × State}
    (blind : Blind respond) {dialogue other : Handling Result}
    (same : SameButTokens dialogue other) (state : State) :
    Indistinct (dialogue.run respond state) (other.run respond state) := by
  induction same generalizing state with
  | done result => exact .of_veiled rfl rfl rfl
  | tell note rest induction =>
      have behind := induction state
      exact .of_veiled behind.result behind.state (congrArg (List.cons _) behind.transcript)
  | ask query rest induction =>
      have behind := induction (respond query state).1 (respond query state).2
      exact .of_veiled behind.result behind.state (congrArg (List.cons _) behind.transcript)
  | success token retoken callback rest induction =>
      have replied := (blind token retoken state).1 callback
      have behind := induction (respond (.notifySuccess token callback) state).1
        (respond (.notifySuccess token callback) state).2
      simp only [Dialogue.run, ← replied]
      exact .of_veiled behind.result behind.state (congrArg (List.cons _) behind.transcript)
  | failure token retoken callback rest induction =>
      have replied := (blind token retoken state).2 callback
      have behind := induction (respond (.notifyFailure token callback) state).1
        (respond (.notifyFailure token callback) state).2
      simp only [Dialogue.run, ← replied]
      exact .of_veiled behind.result behind.state (congrArg (List.cons _) behind.transcript)

/-! ## Requests for different tokens -/

variable {terms : Terms}

theorem same_reportFailure (token retoken : ContinuationToken) (scope : Option ScopeKey)
    (failure : SchedulerError) :
    SameButTokens (reportFailure token scope failure) (reportFailure retoken scope failure) := by
  apply SameButTokens.tell
  apply SameButTokens.failure
  rintro (error | ⟨⟩)
  · exact .refl (reportUndelivered scope "failure" error)
  · exact .done _

theorem same_handleRequest (request : Request) (retoken : ContinuationToken) :
    SameButTokens (handleRequest terms request)
      (handleRequest terms { request with token := retoken }) := by
  have committed : SameButTokens (commitCallback terms request)
      (commitCallback terms { request with token := retoken }) := .refl _
  apply committed.bind
  rintro (error | ⟨slot, callback⟩)
  · exact same_reportFailure _ _ _ error
  · have recorded : SameButTokens
        (recordDelay terms.records slot.plannedAt request.observedAt)
        (recordDelay terms.records slot.plannedAt request.observedAt) := .refl _
    apply recorded.bind
    intro _
    apply SameButTokens.success
    rintro (error | ⟨⟩)
    · exact .refl (reportUndelivered (some request.scope) "success" error)
    · exact .tell _ (.done _)

/-! ## Messages for different tokens -/

/-- The member of a message that its token is taken from. -/
inductive TakenFrom (members : Json.Members) (token : ContinuationToken) : String → Prop where
  | present (named : token.NamedBy members "ContinuationToken") :
      TakenFrom members token "ContinuationToken"
  | older (unnamed : ∀ other : ContinuationToken, ¬ other.NamedBy members "ContinuationToken")
      (named : token.NamedBy members "TaskToken") : TakenFrom members token "TaskToken"

/-- Two objects that differ only in the member that the token is taken from. -/
structure SameMembers (members others : Json.Members) (token retoken : ContinuationToken)
    (name : String) : Prop where
  taken : TakenFrom members token name
  renamed : retoken.NamedBy others name
  same : ∀ other, other ≠ name → others.get? other = members.get? other

/-- Two bodies of messages that differ in the token alone. -/
inductive Retokened (body rebody : String) (token retoken : ContinuationToken) : Prop where
  | intro {members others : Json.Members} {name : String}
      (readable : Json.read body = .ok (.object members))
      (rereadable : Json.read rebody = .ok (.object others))
      (same : SameMembers members others token retoken name)

theorem NamedBy.congr {members others : Json.Members} {name : String}
    (same : others.get? name = members.get? name) (token : ContinuationToken) :
    token.NamedBy others name ↔ token.NamedBy members name := by
  unfold ContinuationToken.NamedBy
  rw [same]

theorem TakenFrom.name_mem {members : Json.Members} {token : ContinuationToken}
    {name : String} (taken : TakenFrom members token name) : name ∈ Message.tokenNames := by
  cases taken <;> decide

theorem TakenFrom.ofJson? {members : Json.Members} {token : ContinuationToken} {name : String}
    (taken : TakenFrom members token name) :
    ContinuationToken.ofJson? (.object members) = some token := by
  apply (ContinuationToken.firstOf_tokenNames_iff members token).mpr
  cases taken with
  | present named => exact .inl named
  | older unnamed named => exact .inr ⟨unnamed, named⟩

theorem SameMembers.retaken {members others : Json.Members}
    {token retoken : ContinuationToken} {name : String}
    (same : SameMembers members others token retoken name) : TakenFrom others retoken name := by
  obtain ⟨taken, renamed, same⟩ := same
  cases taken with
  | present named => exact .present renamed
  | older unnamed named =>
      refine .older ?_ renamed
      intro other
      rw [NamedBy.congr (same "ContinuationToken" (by decide))]
      exact unnamed other

theorem firstText_congr {members others : Json.Members} {names : List String}
    (same : ∀ name ∈ names, others.get? name = members.get? name) :
    Message.firstText others names = Message.firstText members names := by
  induction names with
  | nil => rfl
  | cons name names induction =>
      obtain ⟨here, behind⟩ := List.forall_mem_cons.mp same
      rw [Message.firstText, Message.firstText, here, induction behind]

/-- No other field of a message is looked up under the name of a token. -/
theorem SameMembers.message {members others : Json.Members}
    {token retoken : ContinuationToken} {name : String}
    (same : SameMembers members others token retoken name) :
    Message.ofJson (.object others) = Message.ofJson (.object members) := by
  have elsewhere : ∀ other, other ∉ Message.tokenNames → others.get? other = members.get? other := by
    intro other notToken
    apply same.same
    rintro rfl
    exact notToken same.taken.name_mem
  have region : Message.firstText others Message.regionNames =
      Message.firstText members Message.regionNames :=
    firstText_congr fun name member => elsewhere name (by revert name; decide)
  have account : Message.firstText others Message.accountNames =
      Message.firstText members Message.accountNames :=
    firstText_congr fun name member => elsewhere name (by revert name; decide)
  have details : Message.detailsOf others = Message.detailsOf members := by
    unfold Message.detailsOf
    rw [elsewhere Message.detailsName (by decide)]
  simp only [Message.ofJson, region, account, details]

/-- The token is the only thing that the reading of two such bodies differs in. -/
theorem Retokened.read {body rebody : String} {token retoken : ContinuationToken}
    (retokened : Retokened body rebody token retoken) (observedAt : Int64) :
    (∃ request, Request.read body observedAt = .ok request ∧
      Request.read rebody observedAt = .ok { request with token := retoken }) ∨
    ∃ error, Request.read body observedAt = .error ⟨some token, error⟩ ∧
      Request.read rebody observedAt = .error ⟨some retoken, error⟩ := by
  obtain ⟨readable, rereadable, same⟩ := retokened
  unfold Request.read
  rw [readable, rereadable]
  unfold Request.ofJson Request.ofFields
  simp only [same.taken.ofJson?, same.retaken.ofJson?, same.message]
  rcases Message.ofJson (.object _) with error | message
  · exact .inr ⟨error, rfl, rfl⟩
  · dsimp only [Request.requireToken, bind, Except.bind]
    rcases ScopeKey.ofNames (message.account.getD "") (message.region.getD "") with
      error | scope
    · exact .inr ⟨error, rfl, rfl⟩
    · rcases Request.requireDetails message.details with error | details
      · exact .inr ⟨error, rfl, rfl⟩
      · exact .inl ⟨⟨scope, token, details, observedAt⟩, rfl, rfl⟩

theorem Retokened.handleMessage {body rebody : String} {token retoken : ContinuationToken}
    (retokened : Retokened body rebody token retoken) (observedAt : Int64) :
    SameButTokens (handleMessage terms body observedAt)
      (handleMessage terms rebody observedAt) := by
  unfold Handling.handleMessage
  rcases retokened.read observedAt with ⟨request, reading, rereading⟩ |
    ⟨error, reading, rereading⟩
  · rw [reading, rereading]
    exact same_handleRequest request retoken
  · rw [reading, rereading]
    exact same_reportFailure token retoken none error

theorem Retokened.recoverable {body rebody : String} {token retoken : ContinuationToken}
    (retokened : Retokened body rebody token retoken) :
    Recoverable body token ∧ Recoverable rebody retoken := by
  obtain ⟨readable, rereadable, same⟩ := retokened
  rw [recoverable_iff, recoverable_iff, readable, rereadable]
  exact ⟨same.taken.ofJson?, same.retaken.ofJson?⟩

/-! ## Notifications for different tokens -/

/-- The same call of the notifier for another token. -/
def addressed (token : ContinuationToken) : Delivery → Delivery
  | .success _ callback reply => .success token callback reply
  | .failure _ callback reply => .failure token callback reply

theorem deliveries_veiled (transcript : List Event) :
    deliveries (transcript.map veiled) = (deliveries transcript).map (addressed ⟨""⟩) := by
  unfold deliveries
  rw [List.filterMap_map, List.map_filterMap]
  refine congrArg (fun choose => List.filterMap choose transcript) (funext fun event => ?_)
  rcases event with ⟨query, reply⟩ | note
  · cases query <;> rfl
  · rfl

theorem eq_addressed {delivery other : Delivery}
    (same : addressed ⟨""⟩ delivery = addressed ⟨""⟩ other) :
    other = addressed other.token delivery := by
  cases delivery <;> cases other <;> cases same <;> rfl

theorem delivery_of_recoverable {body : String} {token : ContinuationToken}
    (recoverable : Recoverable body token) {observedAt : Int64} {transcript : List Event}
    {disposition : Disposition}
    (yields : (handleMessage terms body observedAt).Yields transcript disposition) :
    ∃ delivery, deliveries transcript = [delivery] ∧ delivery.token = token := by
  rcases handleMessage_cases yields with ⟨recovered, delivery, unique, once⟩ |
    ⟨unrecoverable, -⟩
  · obtain rfl := (unique token).mp recoverable
    exact ⟨delivery, once.deliveries_eq, once.addressed⟩
  · exact absurd recoverable (unrecoverable token)

/-! ## Batches for different tokens -/

/-- Two records of the queue that are the same, or differ in the token of their messages. -/
inductive SameRecord : Json → Json → Prop where
  | same (record : Json) : SameRecord record record
  | retokened {fields refields : Json.Members} {body rebody : String}
      {token retoken : ContinuationToken}
      (hasBody : fields.get? "body" = some (.string body))
      (hasRebody : refields.get? "body" = some (.string rebody))
      (others : ∀ name, name ≠ "body" → refields.get? name = fields.get? name)
      (retokened : Retokened body rebody token retoken) :
      SameRecord (.object fields) (.object refields)

/-- Two events whose records differ in the tokens of messages alone. -/
inductive SameEvent : Json → Json → Prop where
  | intro {members others : Json.Members} {records rerecords : List Json}
      (listed : members.get? "Records" = some (.array records))
      (relisted : others.get? "Records" = some (.array rerecords))
      (same : List.Forall₂ SameRecord records rerecords) :
      SameEvent (.object members) (.object others)

theorem SameRecord.isFromQueue {record rerecord : Json} (same : SameRecord record rerecord) :
    QueuedMessage.isFromQueue rerecord = QueuedMessage.isFromQueue record := by
  cases same with
  | same => rfl
  | retokened hasBody hasRebody others retokened =>
      simp [QueuedMessage.isFromQueue, Json.member?, Json.members?, others]

theorem SameRecord.handleQueued {record rerecord : Json} (same : SameRecord record rerecord) :
    SameButTokens (handleQueued terms (QueuedMessage.ofRecord record))
      (handleQueued terms (QueuedMessage.ofRecord rerecord)) := by
  cases same with
  | same => exact .refl _
  | @retokened fields refields body rebody _ _ hasBody hasRebody others retokened =>
      have unchanged : QueuedMessage.ofRecord (.object refields) =
          { QueuedMessage.ofRecord (.object fields) with body := some rebody } := by
        simp [QueuedMessage.ofRecord, QueuedMessage.sentAt?, Json.member?, Json.members?,
          others, hasRebody, Json.text?]
      have isBody : (QueuedMessage.ofRecord (.object fields)).body = some body := by
        simp [QueuedMessage.ofRecord, Json.member?, Json.members?, hasBody, Json.text?]
      rw [unchanged]
      have arriving : SameButTokens (arrival (QueuedMessage.ofRecord (.object fields)))
          (arrival (QueuedMessage.ofRecord (.object fields))) := .refl _
      apply arriving.bind
      intro observedAt
      apply SameButTokens.bind
      · simp only [handleBody, isBody]
        exact retokened.handleMessage observedAt
      · intro disposition
        exact .refl _

/-- By induction on the records, which are handled one after the other. -/
theorem same_handleAll {records rerecords : List Json}
    (same : List.Forall₂ SameRecord records rerecords) :
    SameButTokens (handleAll terms (records.map QueuedMessage.ofRecord))
      (handleAll terms (rerecords.map QueuedMessage.ofRecord)) := by
  induction same with
  | nil => exact .refl _
  | cons first others induction =>
      apply first.handleQueued.bind
      intro disposition
      apply induction.bind
      intro dispositions
      exact .refl _

theorem all_isFromQueue {records rerecords : List Json}
    (same : List.Forall₂ SameRecord records rerecords) :
    rerecords.all QueuedMessage.isFromQueue = records.all QueuedMessage.isFromQueue := by
  induction same with
  | nil => rfl
  | cons first others induction => rw [List.all_cons, List.all_cons, first.isFromQueue, induction]

theorem SameEvent.ofEvent {event reevent : Json} (same : SameEvent event reevent) :
    (∃ records rerecords, List.Forall₂ SameRecord records rerecords ∧
      QueuedMessage.ofEvent event = .ok (records.map QueuedMessage.ofRecord) ∧
      QueuedMessage.ofEvent reevent = .ok (rerecords.map QueuedMessage.ofRecord)) ∨
    QueuedMessage.ofEvent event = .error .notQueueEvent ∧
      QueuedMessage.ofEvent reevent = .error .notQueueEvent := by
  obtain @⟨members, others, records, rerecords, listed, relisted, same⟩ := same
  have isRecords : QueuedMessage.records (.object members) = records := by
    simp [QueuedMessage.records, Json.member?, Json.members?, listed, Json.items?]
  have isRerecords : QueuedMessage.records (.object others) = rerecords := by
    simp [QueuedMessage.records, Json.member?, Json.members?, relisted, Json.items?]
  have agree : QueuedMessage.isQueueEvent (.object others) =
      QueuedMessage.isQueueEvent (.object members) := by
    unfold QueuedMessage.isQueueEvent
    rw [isRecords, isRerecords, all_isFromQueue same]
    cases same <;> rfl
  unfold QueuedMessage.ofEvent
  rw [agree, isRecords, isRerecords]
  cases QueuedMessage.isQueueEvent (.object members) with
  | false => exact .inr ⟨rfl, rfl⟩
  | true => exact .inl ⟨records, rerecords, same, rfl, rfl⟩

theorem same_handleEvent {event reevent : Json} (same : SameEvent event reevent) :
    SameButTokens (handleEvent terms event) (handleEvent terms reevent) := by
  unfold handleEvent
  rcases same.ofEvent with ⟨records, rerecords, same, messages, remessages⟩ |
    ⟨refused, alsoRefused⟩
  · rw [messages, remessages]
    apply (same_handleAll same).bind
    intro dispositions
    exact .refl _
  · rw [refused, alsoRefused]
    exact .refl _

/-- Two messages that differ only in the token lead to the same log, the same disposition
and the same calls of everybody, except that the one call of the notifier is for the other
token; and two batches that differ only in the tokens of some of their messages do so too. -/
theorem tokens_unobservable {State : Type}
    (respond : (query : Query) → State → query.Reply × State) (blind : Blind respond)
    (terms : Terms) (state : State) :
    (∀ (body rebody : String) (token retoken : ContinuationToken) (observedAt : Int64),
      Retokened body rebody token retoken →
      let run := (handleMessage terms body observedAt).run respond state
      let rerun := (handleMessage terms rebody observedAt).run respond state
      Indistinct run rerun ∧
        ∃ delivery, deliveries run.transcript = [delivery] ∧ delivery.token = token ∧
          deliveries rerun.transcript = [addressed retoken delivery]) ∧
    ∀ event reevent, SameEvent event reevent →
      Indistinct ((handleEvent terms event).run respond state)
        ((handleEvent terms reevent).run respond state) := by
  constructor
  · intro body rebody token retoken observedAt retokened run rerun
    have indistinct : Indistinct run rerun :=
      (retokened.handleMessage observedAt).indistinct blind state
    refine ⟨indistinct, ?_⟩
    obtain ⟨recoverable, rerecoverable⟩ := retokened.recoverable
    obtain ⟨delivery, delivered, isToken⟩ :=
      delivery_of_recoverable recoverable (Dialogue.yields_run respond _ state)
    obtain ⟨redelivery, redelivered, isRetoken⟩ :=
      delivery_of_recoverable rerecoverable (Dialogue.yields_run respond _ state)
    have same := congrArg deliveries indistinct.transcript
    rw [deliveries_veiled, deliveries_veiled, delivered, redelivered] at same
    refine ⟨delivery, delivered, isToken, ?_⟩
    rw [redelivered, ← isRetoken, ← eq_addressed (List.singleton_inj.mp same)]
  · intro event reevent same
    exact (same_handleEvent same).indistinct blind state

/-- A message that lacks its scope, and a batch with it behind a record without a body. -/
theorem tokens_of_malformed_unobservable :
    let respond := Rehearsal.respond
    let state := Rehearsal.starting Store.empty
    let terms : Terms := ⟨60, .standard, true⟩
    let bodyFor := fun token => (Json.object
      [("ContinuationToken", .string " "), ("TaskToken", .string token)]).compact
    let eventFor := fun token =>
      Batches.eventOf [Batches.recordOf .null, Batches.recordOf (.string (bodyFor token))]
    Blind respond ∧ Retokened (bodyFor "first") (bodyFor "second ") ⟨"first"⟩ ⟨"second"⟩ ∧
      SameEvent (eventFor "first") (eventFor "second ") ∧
      Indistinct ((handleMessage terms (bodyFor "first") 0).run respond state)
        ((handleMessage terms (bodyFor "second ") 0).run respond state) ∧
      Indistinct ((handleEvent terms (eventFor "first")).run respond state)
        ((handleEvent terms (eventFor "second ")).run respond state) := by
  intro respond state terms bodyFor eventFor
  have blind : Blind respond := fun _ _ _ => ⟨fun _ => rfl, fun _ => rfl⟩
  let fieldsFor : String → Json.Members := fun token =>
    [("ContinuationToken", .string " "), ("TaskToken", .string token)]
  have readable (token : String) : Json.read (bodyFor token) = .ok (.object (fieldsFor token)) := by
    have sorted : (fieldsFor token).Sorted :=
      List.pairwise_pair.mpr (by decide : "ContinuationToken" < "TaskToken")
    apply Json.read_compact
    · simpa [Json.messageLevels, fieldsFor] using sorted
    · simp
  have named : (⟨"first"⟩ : ContinuationToken).NamedBy (fieldsFor "first") "TaskToken" :=
    ⟨"first", rfl, by decide +kernel, by decide +kernel⟩
  have renamed : (⟨"second"⟩ : ContinuationToken).NamedBy (fieldsFor "second ") "TaskToken" :=
    ⟨"second ", rfl, by decide +kernel, by decide +kernel⟩
  have retokened : Retokened (bodyFor "first") (bodyFor "second ") ⟨"first"⟩ ⟨"second"⟩ := by
    refine .intro (readable "first") (readable "second ") ⟨.older ?_ named, renamed, ?_⟩
    · rintro other ⟨text, found, filled, -⟩
      obtain rfl : " " = text := by simpa [fieldsFor] using found
      exact absurd filled (by decide)
    · intro other different
      simp [fieldsFor, different.symm]
  have records : List.Forall₂ SameRecord
      [Batches.recordOf .null, Batches.recordOf (.string (bodyFor "first"))]
      [Batches.recordOf .null, Batches.recordOf (.string (bodyFor "second "))] := by
    refine .cons (.same _) (.cons ?_ .nil)
    refine .retokened (by simp) (by simp) ?_ retokened
    intro name different
    simp [different.symm]
  have same : SameEvent (eventFor "first") (eventFor "second ") :=
    .intro (by simp) (by simp) records
  have unobservable := tokens_unobservable respond blind terms state
  exact ⟨blind, retokened, same, (unobservable.1 _ _ _ _ 0 retokened).1,
    unobservable.2 _ _ same⟩

end Pacing.Discretion
