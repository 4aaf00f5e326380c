import Pacing.Handling.Message
import Pacing.Proofs.Recovery
import Pacing.Proofs.Retrying

/-!
# One notification for each message

A message whose token can be recovered leads to one call of the notifier, as the
last call of all, and the disposition of the message tells how that call went.
A message without such a token leads to no call of any collaborator.
-/

namespace Pacing.Notification

open Handling

/-! ## Calls of the notifier -/

/-- A call of the notifier, and its reply. -/
inductive Delivery where
  | success (token : ContinuationToken) (callback : SuccessCallback)
      (reply : Except NotifyError Unit)
  | failure (token : ContinuationToken) (callback : FailureCallback)
      (reply : Except NotifyError Unit)

namespace Delivery

def event : Delivery → Event
  | success token callback reply => .exchange (.notifySuccess token callback) reply
  | failure token callback reply => .exchange (.notifyFailure token callback) reply

def token : Delivery → ContinuationToken
  | success token .. => token
  | failure token .. => token

def reply : Delivery → Except NotifyError Unit
  | success _ _ reply => reply
  | failure _ _ reply => reply

end Delivery

/-- The call of the notifier that an event is, if it is one. -/
def delivery? : Event → Option Delivery
  | .exchange (.notifySuccess token callback) reply =>
    some (.success token callback reply)
  | .exchange (.notifyFailure token callback) reply =>
    some (.failure token callback reply)
  | _ => none

def deliveries (transcript : List Event) : List Delivery :=
  transcript.filterMap delivery?

@[simp] theorem delivery?_event (delivery : Delivery) :
    delivery? delivery.event = some delivery := by
  cases delivery <;> rfl

theorem deliveries_append (earlier later : List Event) :
    deliveries (earlier ++ later) = deliveries earlier ++ deliveries later :=
  List.filterMap_append

theorem deliveries_calls (transcript : List Event) :
    deliveries (calls transcript) = deliveries transcript := by
  unfold deliveries calls
  rw [List.filterMap_filter]
  refine congrArg (fun choose => List.filterMap choose transcript) ?_
  refine funext fun event => ?_
  rcases event with ⟨query, reply⟩ | note
  · cases query <;> rfl
  · rfl

theorem deliveries_of_unasked {transcript : List Event}
    (unasked : Dialogue.queries transcript = []) : deliveries transcript = [] := by
  refine List.filterMap_eq_nil_iff.mpr fun event member => ?_
  have noQuery := List.filterMap_eq_nil_iff.mp unasked event member
  rcases event with ⟨query, reply⟩ | note
  · cases noQuery
  · rfl

/-! ## Commits are silent -/

variable {transcript : List Event} {terms : Terms} {key : ScopeKey}

theorem deliveries_attemptCalls (threshold : UInt64) (now : Int64)
    (previous : Option ScheduleRecord) (written : Except StoreError Unit) :
    deliveries (Retrying.attemptCalls key threshold now previous written) = [] := by
  cases previous <;> rfl

theorem deliveries_lost (threshold : UInt64) (lost : List Retrying.LostAttempt) :
    deliveries (lost.flatMap (Retrying.LostAttempt.calls key threshold)) = [] := by
  induction lost with
  | nil => rfl
  | cons first others hypothesis =>
      rw [List.flatMap_cons, deliveries_append, hypothesis, Retrying.LostAttempt.calls,
        deliveries_append, deliveries_attemptCalls]
      rfl

theorem deliveries_last {number : Nat} {last : List Event}
    {result : Except SchedulerError Slot}
    (ending : Retrying.LastAttempt terms key number last result) :
    deliveries last = [] := by
  cases ending with
  | committed now previous => exact deliveries_attemptCalls _ now previous _
  | unread now blamed => rfl
  | unwritten now previous other blamed =>
      exact deliveries_attemptCalls _ now previous _
  | exhausted now previous conflict final =>
      exact deliveries_attemptCalls _ now previous _

/-- A commit never calls the notifier. -/
theorem deliveries_commit {result : Except SchedulerError Slot}
    (yields : (commit terms key).Yields transcript result) :
    deliveries transcript = [] := by
  rcases Retrying.commit_cases yields with
    ⟨rfl, -⟩ | ⟨lost, last, number, called, ending⟩
  · rfl
  · rw [← deliveries_calls, called, deliveries_append, deliveries_lost,
      deliveries_last ending]
    rfl

/-! ## How a call went -/

/-- The disposition of a message after the call of the notifier for it. -/
inductive Settles : Delivery → Disposition → Prop where
  | scheduled (token : ContinuationToken) (callback : SuccessCallback)
      (plannedAt : Int64) (attempts : Nat) :
      Settles (.success token callback (.ok ())) (.scheduled plannedAt attempts)
  | reported (token : ContinuationToken) (callback : FailureCallback) :
      Settles (.failure token callback (.ok ())) (.failureReported callback.className)
  | undelivered {delivery : Delivery} {error : NotifyError}
      (refused : delivery.reply = .error error) :
      Settles delivery (.callbackUndelivered "CallbackDeliveryFailed")

theorem reportUndelivered_yields {scope : Option ScopeKey} {kind : String}
    {error : NotifyError} {disposition : Disposition}
    (yields : (reportUndelivered scope kind error).Yields transcript disposition) :
    calls transcript = [] ∧
      disposition = .callbackUndelivered "CallbackDeliveryFailed" := by
  obtain ⟨rest, rfl, behind⟩ := Dialogue.Yields.tell_cases yields
  obtain ⟨rfl, rfl⟩ := Dialogue.Yields.done_cases behind
  exact ⟨rfl, rfl⟩

theorem reportFailure_yields {token : ContinuationToken} {scope : Option ScopeKey}
    {failure : SchedulerError} {disposition : Disposition}
    (yields : (reportFailure token scope failure).Yields transcript disposition) :
    ∃ reply, calls transcript = [(Delivery.failure token (.of failure) reply).event] ∧
      Settles (.failure token (.of failure) reply) disposition := by
  obtain ⟨told, rfl, afterNote⟩ := Dialogue.Yields.tell_cases yields
  obtain ⟨reply, rest, rfl, afterCall⟩ := Dialogue.Yields.ask_cases afterNote
  rcases reply with error | ⟨⟩
  · obtain ⟨silent, rfl⟩ := reportUndelivered_yields afterCall
    exact ⟨.error error, congrArg (List.cons _) silent, .undelivered rfl⟩
  · obtain ⟨rfl, rfl⟩ := Dialogue.Yields.done_cases afterCall
    exact ⟨.ok (), rfl, .reported token (.of failure)⟩

/-- The calls with which a delay is recorded: one of the recorder if there is one. -/
inductive DelayCalls (plannedAt observedAt : Int64) : Bool → List Event → Prop where
  | unrecorded : DelayCalls plannedAt observedAt false []
  | recorded (reply : Except MetricsError Unit) :
      DelayCalls plannedAt observedAt true
        [.exchange (.record (delaySeconds plannedAt observedAt)) reply]

theorem recordDelay_yields {records : Bool} {plannedAt observedAt : Int64}
    {recorded : Unit}
    (yields : (recordDelay records plannedAt observedAt).Yields transcript recorded) :
    DelayCalls plannedAt observedAt records (calls transcript) := by
  cases records with
  | false =>
      obtain ⟨rfl, -⟩ := Dialogue.Yields.done_cases yields
      exact .unrecorded
  | true =>
      obtain ⟨reply, rest, rfl, afterCall⟩ := Dialogue.Yields.ask_cases yields
      rcases reply with error | ⟨⟩
      all_goals
        obtain ⟨told, rfl, behind⟩ := Dialogue.Yields.tell_cases afterCall
        obtain ⟨rfl, -⟩ := Dialogue.Yields.done_cases behind
        exact .recorded _

theorem DelayCalls.deliveries_eq {plannedAt observedAt : Int64} {records : Bool}
    {recording : List Event} (recorded : DelayCalls plannedAt observedAt records recording) :
    deliveries recording = [] := by
  cases recorded with
  | unrecorded => rfl
  | recorded reply => rfl

/-- A committed slot and the callback that words it for the workflow of a request,
or the failure of the commit or of the wording. -/
def worded (request : Request) (committed : Except SchedulerError Slot) :
    Except SchedulerError (Slot × SuccessCallback) :=
  committed.bind fun slot =>
    (SuccessCallback.of slot.plannedAt request.details).map fun callback =>
      (slot, callback)

theorem worded_ok (request : Request) (slot : Slot) :
    worded request (.ok slot) =
      (SuccessCallback.of slot.plannedAt request.details).map fun callback =>
        (slot, callback) := rfl

theorem successCallback_eq_ok_iff {plannedAt : Int64} {details : Json.Members}
    {callback : SuccessCallback} :
    SuccessCallback.of plannedAt details = .ok callback ↔
      ∃ timestamp, plannedTimestamp plannedAt = .ok timestamp ∧
        callback = ⟨timestamp, details⟩ := by
  unfold SuccessCallback.of
  cases plannedTimestamp plannedAt with
  | error error => simp [Except.map]
  | ok timestamp => simp [Except.map, eq_comm]

theorem worded_eq_ok_iff {request : Request} {committed : Except SchedulerError Slot}
    {slot : Slot} {callback : SuccessCallback} :
    worded request committed = .ok (slot, callback) ↔
      committed = .ok slot ∧
        SuccessCallback.of slot.plannedAt request.details = .ok callback := by
  cases committed with
  | error error => simp [worded, Except.bind]
  | ok other =>
      rw [worded_ok, Except.ok.injEq]
      constructor
      · cases text : SuccessCallback.of other.plannedAt request.details with
        | error error => rintro ⟨⟩
        | ok callback =>
            rintro ⟨⟩
            exact ⟨rfl, text⟩
      · rintro ⟨rfl, text⟩
        rw [text]
        rfl

theorem commitCallback_yields {request : Request}
    {result : Except SchedulerError (Slot × SuccessCallback)}
    (yields : (commitCallback terms request).Yields transcript result) :
    ∃ committed, (commit terms request.scope).Yields transcript committed ∧
      result = worded request committed := by
  obtain ⟨earlier, committed, later, rfl, committing, wording⟩ :=
    Dialogue.Yields.bind_cases yields
  refine ⟨committed, ?_⟩
  rcases committed with error | slot
  · obtain ⟨rfl, rfl⟩ := Dialogue.Yields.done_cases wording
    rw [List.append_nil]
    exact ⟨committing, rfl⟩
  · dsimp only at wording
    cases text : SuccessCallback.of slot.plannedAt request.details with
    | error error =>
        rw [text] at wording
        obtain ⟨rfl, rfl⟩ := Dialogue.Yields.done_cases wording
        rw [List.append_nil, worded_ok, text]
        exact ⟨committing, rfl⟩
    | ok callback =>
        rw [text] at wording
        obtain ⟨rfl, rfl⟩ := Dialogue.Yields.done_cases wording
        rw [List.append_nil, worded_ok, text]
        exact ⟨committing, rfl⟩

theorem notifySuccess_yields {token : ContinuationToken} {callback : SuccessCallback}
    {scope : Option ScopeKey} {note : Note} {plannedAt : Int64} {attempts : Nat}
    {disposition : Disposition}
    {proceed : Except NotifyError Unit → Handling Disposition}
    (delivered : proceed (.ok ()) =
      Dialogue.tell note (.done (.scheduled plannedAt attempts)))
    (refused : ∀ error, proceed (.error error) = reportUndelivered scope "success" error)
    (yields : (Dialogue.ask (.notifySuccess token callback) proceed).Yields
      transcript disposition) :
    ∃ reply, calls transcript = [(Delivery.success token callback reply).event] ∧
      Settles (.success token callback reply) disposition := by
  obtain ⟨reply, rest, rfl, afterCall⟩ := yields.ask_cases
  refine ⟨reply, ?_⟩
  rcases reply with error | ⟨⟩
  · rw [refused] at afterCall
    obtain ⟨silent, rfl⟩ := reportUndelivered_yields afterCall
    exact ⟨congrArg (List.cons _) silent, .undelivered rfl⟩
  · rw [delivered] at afterCall
    obtain ⟨told, rfl, behind⟩ := afterCall.tell_cases
    obtain ⟨rfl, rfl⟩ := behind.done_cases
    exact ⟨rfl, .scheduled token callback plannedAt attempts⟩

/-- A request is committed; then its workflow is told of the failure, if there was
one, or of the slot, once the delay is recorded. -/
theorem handleRequest_yields {request : Request} {disposition : Disposition}
    (yields : (handleRequest terms request).Yields transcript disposition) :
    ∃ committing committed, (commit terms request.scope).Yields committing committed ∧
      ((∃ failure reply, worded request committed = .error failure ∧
        calls transcript = calls committing ++
          [(Delivery.failure request.token (.of failure) reply).event] ∧
        Settles (.failure request.token (.of failure) reply) disposition) ∨
      ∃ slot callback recording reply, worded request committed = .ok (slot, callback) ∧
        calls transcript = calls committing ++ recording ++
          [(Delivery.success request.token callback reply).event] ∧
        DelayCalls slot.plannedAt request.observedAt terms.records recording ∧
        Settles (.success request.token callback reply) disposition) := by
  obtain ⟨committing, result, later, rfl, commitment, telling⟩ :=
    Dialogue.Yields.bind_cases yields
  obtain ⟨committed, commits, rfl⟩ := commitCallback_yields commitment
  refine ⟨committing, committed, commits, ?_⟩
  rw [calls_append]
  rcases outcome : worded request committed with failure | ⟨slot, callback⟩
  · rw [outcome] at telling
    obtain ⟨reply, called, settled⟩ := reportFailure_yields telling
    rw [called]
    exact .inl ⟨failure, reply, rfl, rfl, settled⟩
  · rw [outcome] at telling
    obtain ⟨recorded, _, rest, rfl, recording, afterRecord⟩ :=
      Dialogue.Yields.bind_cases telling
    obtain ⟨reply, called, settled⟩ :=
      notifySuccess_yields rfl (fun _ => rfl) afterRecord
    refine .inr ⟨slot, callback, calls recorded, reply, rfl, ?_, ?_, settled⟩
    · rw [calls_append, called, List.append_assoc]
    · exact recordDelay_yields recording

/-- The last call, and the only one of the notifier, is for a token, and the
disposition fits it. -/
structure NotifiesOnce (token : ContinuationToken) (transcript : List Event)
    (delivery : Delivery) (disposition : Disposition) : Prop where
  last : ∃ earlier, calls transcript = earlier ++ [delivery.event] ∧
    deliveries earlier = []
  addressed : delivery.token = token
  settled : Settles delivery disposition

theorem NotifiesOnce.deliveries_eq {token : ContinuationToken} {delivery : Delivery}
    {disposition : Disposition}
    (once : NotifiesOnce token transcript delivery disposition) :
    deliveries transcript = [delivery] := by
  obtain ⟨earlier, called, silent⟩ := once.last
  rw [← deliveries_calls, called, deliveries_append, silent]
  cases delivery <;> rfl

theorem reportFailure_once {token : ContinuationToken} {scope : Option ScopeKey}
    {failure : SchedulerError} {disposition : Disposition}
    (yields : (reportFailure token scope failure).Yields transcript disposition) :
    ∃ delivery, NotifiesOnce token transcript delivery disposition := by
  obtain ⟨reply, called, settled⟩ := reportFailure_yields yields
  exact ⟨_, ⟨[], called, rfl⟩, rfl, settled⟩

theorem handleRequest_once {request : Request} {disposition : Disposition}
    (yields : (handleRequest terms request).Yields transcript disposition) :
    ∃ delivery, NotifiesOnce request.token transcript delivery disposition := by
  obtain ⟨committing, committed, commits, ⟨failure, reply, -, called, settled⟩ |
    ⟨slot, callback, recording, reply, -, called, recorded, settled⟩⟩ :=
    handleRequest_yields yields
  · have quiet := deliveries_commit commits
    rw [← deliveries_calls] at quiet
    exact ⟨_, ⟨_, called, quiet⟩, rfl, settled⟩
  · have quiet := deliveries_commit commits
    rw [← deliveries_calls] at quiet
    refine ⟨_, ⟨_, called, ?_⟩, rfl, settled⟩
    rw [deliveries_append, quiet, recorded.deliveries_eq]
    rfl

/-- A message notifies once if a token can be recovered from it; otherwise it is
dropped and asks nobody anything. -/
theorem handleMessage_cases {body : String} {observedAt : Int64}
    {disposition : Disposition}
    (yields : (handleMessage terms body observedAt).Yields transcript disposition) :
    (∃ token delivery, (∀ other, Recoverable body other ↔ other = token) ∧
      NotifiesOnce token transcript delivery disposition) ∨
    (∀ token, ¬ Recoverable body token) ∧ Dialogue.queries transcript = [] ∧
      ∃ reason, disposition = .dropped reason := by
  unfold handleMessage at yields
  rcases Request.read_cases body observedAt with ⟨request, reading, recoverable⟩ |
    ⟨⟨recovered, error⟩, reading, recoverable⟩
  · rw [reading] at yields
    obtain ⟨delivery, once⟩ := handleRequest_once yields
    exact .inl ⟨request.token, delivery, recoverable, once⟩
  · rw [reading] at yields
    cases recovered with
    | some token =>
        obtain ⟨delivery, once⟩ := reportFailure_once yields
        refine .inl ⟨token, delivery, fun other => ?_, once⟩
        rw [recoverable other, Option.some.injEq]
        exact eq_comm
    | none =>
        obtain ⟨rest, rfl, behind⟩ := Dialogue.Yields.tell_cases yields
        obtain ⟨rfl, rfl⟩ := Dialogue.Yields.done_cases behind
        refine .inr ⟨fun token => ?_, rfl, error.message, rfl⟩
        rw [recoverable token]
        exact nofun

/-- A disposition tells how the calls of the notifier went. -/
structure Tells (disposition : Disposition) (delivered : List Delivery) : Prop where
  scheduled : (∃ plannedAt attempts, disposition = .scheduled plannedAt attempts) ↔
    ∃ token callback, delivered = [.success token callback (.ok ())]
  reported : ∀ className, disposition = .failureReported className ↔
    ∃ token callback, delivered = [.failure token callback (.ok ())] ∧
      callback.className = className
  undelivered : disposition = .callbackUndelivered "CallbackDeliveryFailed" ↔
    ∃ delivery error, delivered = [delivery] ∧ delivery.reply = .error error
  undeliveredClass : ∀ className, disposition = .callbackUndelivered className →
    className = "CallbackDeliveryFailed"
  dropped : (∃ reason, disposition = .dropped reason) ↔ delivered = []

theorem Settles.tells {delivery : Delivery} {disposition : Disposition}
    (settles : Settles delivery disposition) : Tells disposition [delivery] := by
  cases settles with
  | scheduled token callback plannedAt attempts =>
      constructor
      · exact ⟨fun _ => ⟨token, callback, rfl⟩, fun _ => ⟨plannedAt, attempts, rfl⟩⟩
      · intro className
        exact ⟨nofun, fun ⟨_, _, same, _⟩ => by cases same⟩
      · refine ⟨nofun, fun ⟨_, _, same, refused⟩ => ?_⟩
        cases same
        cases refused
      · intro className
        exact nofun
      · exact ⟨nofun, nofun⟩
  | reported token callback =>
      constructor
      · exact ⟨nofun, fun ⟨_, _, same⟩ => by cases same⟩
      · intro className
        constructor
        · intro same
          cases same
          exact ⟨token, callback, rfl, rfl⟩
        · rintro ⟨_, _, same, rfl⟩
          cases same
          rfl
      · refine ⟨nofun, fun ⟨_, _, same, refused⟩ => ?_⟩
        cases same
        cases refused
      · intro className
        exact nofun
      · exact ⟨nofun, nofun⟩
  | undelivered refused =>
      constructor
      · refine ⟨nofun, fun ⟨_, _, same⟩ => ?_⟩
        cases same
        cases refused
      · intro className
        refine ⟨nofun, fun ⟨_, _, same, _⟩ => ?_⟩
        cases same
        cases refused
      · exact ⟨fun _ => ⟨_, _, rfl, refused⟩, fun _ => rfl⟩
      · intro className same
        cases same
        rfl
      · exact ⟨nofun, nofun⟩

theorem tells_dropped (reason : String) : Tells (.dropped reason) [] := by
  constructor
  · exact ⟨nofun, nofun⟩
  · intro className
    exact ⟨nofun, nofun⟩
  · exact ⟨nofun, nofun⟩
  · intro className
    exact nofun
  · exact ⟨fun _ => rfl, fun _ => ⟨reason, rfl⟩⟩

/-- Whoever replies and whatever the replies are, a message from which a token can
be recovered leads to exactly one call of the notifier, for that token and as
the last call; any other message leads to no question at all.  The disposition
tells how the call went. -/
theorem handleMessage_notifies_once {State : Type}
    (respond : (query : Query) → State → query.Reply × State) (state : State)
    (terms : Terms) (body : String) (observedAt : Int64) :
    let run := (handleMessage terms body observedAt).run respond state
    (∀ token, Recoverable body token →
      ∃ (earlier : List Event) (delivery : Delivery),
        calls run.transcript = earlier ++ [delivery.event] ∧
        deliveries earlier = [] ∧ delivery.token = token) ∧
    ((∀ token, ¬ Recoverable body token) → Dialogue.queries run.transcript = []) ∧
    Tells run.result (deliveries run.transcript) := by
  intro run
  have yields : (handleMessage terms body observedAt).Yields run.transcript run.result :=
    Dialogue.yields_run respond _ state
  rcases handleMessage_cases yields with ⟨token, delivery, recoverable, once⟩ |
    ⟨unrecoverable, unasked, reason, dropped⟩
  · refine ⟨?_, ?_, ?_⟩
    · intro other recovered
      cases (recoverable other).mp recovered
      obtain ⟨earlier, called, silent⟩ := once.last
      exact ⟨earlier, delivery, called, silent, once.addressed⟩
    · intro unrecoverable
      exact absurd ((recoverable token).mpr rfl) (unrecoverable token)
    · rw [once.deliveries_eq]
      exact once.settled.tells
  · refine ⟨?_, fun _ => unasked, ?_⟩
    · intro token recovered
      exact absurd recovered (unrecoverable token)
    · rw [deliveries_of_unasked unasked, dropped]
      exact tells_dropped reason

end Pacing.Notification
