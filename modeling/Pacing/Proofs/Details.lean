import Pacing.Proofs.Notification
import Pacing.Proofs.RoundTrip

/-!
# Details reach the workflow

The details of a request are the object that its message holds under their name, and a
callback is this object with the planned time put into it.  Its text denotes just that: the
details nest less deep than the message they came in, and what is written for them is read
back.
-/

namespace Pacing

open Json

namespace Request

/-- The details of a request are taken out of its message as they are. -/
theorem details_of_ofFields {value : Json} {observedAt : Int64} {request : Request}
    (accepted : ofFields value observedAt = .ok request) :
    ∃ fields : Members, value = .object fields ∧
      fields.get? Message.detailsName = some (.object request.details) := by
  obtain ⟨message, fromMessage, afterMessage⟩ := ok_of_bind accepted
  obtain ⟨token, -, afterToken⟩ := ok_of_bind afterMessage
  obtain ⟨scope, -, afterScope⟩ := ok_of_bind afterToken
  obtain ⟨details, required, afterDetails⟩ := ok_of_bind afterScope
  cases afterDetails
  cases value with
  | object fields =>
      obtain ⟨region, -, afterRegion⟩ := ok_of_bind fromMessage
      obtain ⟨account, -, afterAccount⟩ := ok_of_bind afterRegion
      cases afterAccount
      refine ⟨fields, rfl, ?_⟩
      show Members.get? fields Message.detailsName = some (.object details)
      dsimp only [Message.detailsOf] at required
      split at required
      · cases required
      · unfold requireDetails at required
        split at required
        · next held => rw [held, Except.ok.inj required]
        · cases required
        · cases required
  | _ => cases fromMessage

theorem details_of_read {body : String} {observedAt : Int64} {request : Request}
    (accepted : read body observedAt = .ok request) :
    ∃ fields : Members, Json.read body = .ok (.object fields) ∧
      fields.get? Message.detailsName = some (.object request.details) := by
  unfold read at accepted
  cases readable : Json.read body with
  | error defect =>
      rw [readable] at accepted
      cases accepted
  | ok value =>
      rw [readable] at accepted
      dsimp only [ofJson] at accepted
      cases reading : ofFields value observedAt with
      | error error =>
          rw [reading] at accepted
          cases accepted
      | ok other =>
          rw [reading] at accepted
          cases accepted
          obtain ⟨fields, rfl, held⟩ := details_of_ofFields reading
          exact ⟨fields, rfl, held⟩

end Request

namespace Json

theorem mem_of_get? {members : Members} {name : String} {value : Json}
    (found : members.get? name = some value) : (name, value) ∈ members := by
  obtain ⟨member, isFirst, rfl⟩ := Option.map_eq_some_iff.mp found
  obtain rfl : member.1 = name := by simpa using List.find?_some isFirst
  exact List.mem_of_find?_eq_some isFirst

theorem Nests.get? {levels : Nat} {members : Members} {name : String} {value : Json}
    (nests : Nests (levels + 1) (.object members)) (found : members.get? name = some value) :
    Nests levels value :=
  (nests_object.mp nests).2 _ (mem_of_get? found)

theorem Whole.insert {members : Members} {value : Json} (whole : Whole (.object members))
    (inner : Whole value) (name : String) : Whole (.object (members.insert name value)) := by
  refine .object ?_
  intro member inserted
  rcases Members.mem_insert inserted with rfl | old
  · exact inner
  · exact whole_object.mp whole member old

end Json

/-- The details of a message with the planned time among them, and nothing else. -/
structure Carries (members details : Members) (timestamp : String) : Prop where
  /-- Every name stands once. -/
  sorted : members.Sorted
  planned : members.get? "PlannedTimestamp" = some (.string timestamp)
  others : ∀ name, name ≠ "PlannedTimestamp" → members.get? name = details.get? name

theorem carries_insert {details : Members} (sorted : details.Sorted) (timestamp : String) :
    Carries (details.insert SuccessCallback.timestampName (.string timestamp)) details
      timestamp := by
  constructor
  · exact Members.sorted_insert _ _ sorted
  · exact (Members.get?_insert _ _ _ _).trans (if_pos rfl)
  · intro name different
    exact (Members.get?_insert _ _ _ _).trans (if_neg different.symm)

/-- The text of a callback for the details of a message. -/
theorem SuccessCallback.read_text {body : String} {observedAt : Int64} {request : Request}
    (accepted : Request.read body observedAt = .ok request)
    (whole : Whole (.object request.details)) (timestamp : String) :
    ∃ members, Json.read (SuccessCallback.text ⟨timestamp, request.details⟩) =
        .ok (.object members) ∧ Carries members request.details timestamp := by
  obtain ⟨fields, readable, held⟩ := Request.details_of_read accepted
  -- One level less than the message, which leaves room for the callback.
  have nests : Nests 126 (.object request.details) := (nests_of_read readable).get? held
  have callback : Nests messageLevels (SuccessCallback.toJson ⟨timestamp, request.details⟩) :=
    (nests.insert (.string _ timestamp) timestampName).mono (by decide)
  have wholeCallback := whole.insert (.string timestamp) timestampName
  refine ⟨_, read_compact callback wholeCallback, ?_⟩
  exact carries_insert (nests_object.mp nests).1 timestamp

namespace Notification

open Handling

/-- A workflow is told of a slot by the callback for its request. -/
theorem callback_of_handleRequest {terms : Terms} {request : Request}
    {transcript : List Event} {disposition : Disposition}
    (yields : (handleRequest terms request).Yields transcript disposition)
    {token : ContinuationToken} {callback : SuccessCallback} {reply : Except NotifyError Unit}
    (delivered : .success token callback reply ∈ deliveries transcript) :
    ∃ plannedAt, SuccessCallback.of plannedAt request.details = .ok callback := by
  obtain ⟨committing, committed, commits, ⟨failure, refusal, -, called, -⟩ |
    ⟨slot, other, recording, answer, wording, called, recorded, -⟩⟩ :=
    handleRequest_yields yields
  · have quiet := deliveries_commit commits
    rw [← deliveries_calls, called, deliveries_append, deliveries_calls, quiet] at delivered
    cases List.mem_singleton.mp delivered
  · have quiet := deliveries_commit commits
    rw [← deliveries_calls, called, deliveries_append, deliveries_append, deliveries_calls,
      quiet, recorded.deliveries_eq] at delivered
    cases List.mem_singleton.mp delivered
    obtain ⟨-, isCallback⟩ := worded_eq_ok_iff.mp wording
    exact ⟨slot.plannedAt, isCallback⟩

/-- Whenever the workflow of a message is told of a slot, it is told the details of the
message. -/
theorem notified_details {body : String} {observedAt : Int64} {request : Request}
    (accepted : Request.read body observedAt = .ok request)
    (whole : Whole (.object request.details)) {terms : Terms} {transcript : List Event}
    {disposition : Disposition}
    (yields : (handleMessage terms body observedAt).Yields transcript disposition)
    {token : ContinuationToken} {callback : SuccessCallback} {reply : Except NotifyError Unit}
    (delivered : .success token callback reply ∈ deliveries transcript) :
    ∃ members, Json.read callback.text = .ok (.object members) ∧
      Carries members request.details callback.timestamp := by
  unfold handleMessage at yields
  rw [accepted] at yields
  obtain ⟨plannedAt, isCallback⟩ := callback_of_handleRequest yields delivered
  obtain ⟨timestamp, -, rfl⟩ := successCallback_eq_ok_iff.mp isCallback
  exact SuccessCallback.read_text accepted whole timestamp

end Notification

/-- For a message that is accepted and in whose details all numbers are integers, and for a
planned time that has a text, the text of the callback denotes the details of the message,
with the text of the planned time among them instead of what they held under its name.  So
does the text of every callback with which the workflow of the message is told of a slot. -/
theorem details_unaltered {body : String} {observedAt : Int64} {request : Request}
    (accepted : Request.read body observedAt = .ok request) :
    ∃ fields details : Members, Json.read body = .ok (.object fields) ∧
      fields.get? "RemediationDetails" = some (.object details) ∧
      (Whole (.object details) →
        (∀ plannedAt timestamp, plannedTimestamp plannedAt = .ok timestamp →
          ∃ callback members, SuccessCallback.of plannedAt request.details = .ok callback ∧
            Json.read callback.text = .ok (.object members) ∧
            Carries members details timestamp) ∧
        ∀ terms transcript disposition,
          (Handling.handleMessage terms body observedAt).Yields transcript disposition →
          ∀ token callback reply,
            .success token callback reply ∈ Notification.deliveries transcript →
            ∃ members, Json.read callback.text = .ok (.object members) ∧
              Carries members details callback.timestamp) := by
  obtain ⟨fields, readable, held⟩ := Request.details_of_read accepted
  refine ⟨fields, request.details, readable, held, ?_⟩
  intro whole
  constructor
  · intro plannedAt timestamp written
    obtain ⟨members, denoted, carries⟩ :=
      SuccessCallback.read_text accepted whole timestamp
    refine ⟨⟨timestamp, request.details⟩, members, ?_, denoted, carries⟩
    rw [SuccessCallback.of, written]
    rfl
  · intro terms transcript disposition yields token callback reply delivered
    exact Notification.notified_details accepted whole yields delivered

/-- Nested details that hold a name to be replaced, characters to be escaped and a negative
integer. -/
theorem nested_details_unaltered :
    let details : Members :=
      [("PlannedTimestamp", .null), ("é\"\n", .array [.integer ⟨-5, by decide, by decide⟩,
        .object [("\x01", .string "\\")]])]
    let body := (Json.object [("AccountId", .string "1"), ("ContinuationToken", .string "t"),
      ("RemediationDetails", .object details), ("ResourceRegion", .string "r")]).compact
    ∃ request, Request.read body 0 = .ok request ∧ Whole (.object details) ∧
      plannedTimestamp 0 = .ok "1970-01-01T00:00:00Z" ∧
      ∃ callback members, SuccessCallback.of 0 request.details = .ok callback ∧
        Json.read callback.text = .ok (.object members) ∧
        Carries members details "1970-01-01T00:00:00Z" := by
  intro details body
  let fields : Members := [("AccountId", .string "1"), ("ContinuationToken", .string "t"),
    ("RemediationDetails", .object details), ("ResourceRegion", .string "r")]
  have whole : Whole (.object details) := by simp [details]
  have readable : Json.read body = .ok (.object fields) := by
    apply read_compact
    · simp +decide [messageLevels, details]
    · simp [whole]
  have accepted : Request.read body 0 = .ok ⟨⟨"1-r"⟩, ⟨"t"⟩, details, 0⟩ := by
    have message : Message.ofJson (.object fields) =
      .ok ⟨some "r", some "1", some (.object details)⟩ := rfl
    have token : ContinuationToken.ofJson? (.object fields) = some ⟨"t"⟩ := rfl
    have scope : ScopeKey.ofNames "1" "r" = .ok ⟨"1-r"⟩ := rfl
    rw [Request.read, readable]
    simp only [Request.ofJson, Request.ofFields, message, token, Request.requireToken, bind,
      Except.bind, Option.getD_some, scope]
    rfl
  have timestamp : plannedTimestamp 0 = .ok "1970-01-01T00:00:00Z" := rfl
  obtain ⟨others, held, alsoReadable, isHeld, unaltered⟩ := details_unaltered accepted
  obtain rfl : details = held := by
    cases readable.symm.trans alsoReadable
    simpa [fields] using isHeld
  exact ⟨_, accepted, whole, timestamp, (unaltered whole).1 0 _ timestamp⟩

end Pacing
