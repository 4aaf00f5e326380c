import Pacing.Proofs.Notification
import Pacing.Proofs.Site

/-!
# What a reported failure leaves behind

The writes that were acknowledged are all that a store in memory can tell of a
run.  A commit has at most one of them, and none if it fails.  So a workflow
that is told of a failure finds the store as it was, with one exception: the
planned time is worded only when its slot is committed, and a planned time
without a date is reported although its slot is taken.
-/

namespace Pacing

/-- A store after an event: an acknowledged write has filed its record. -/
def Store.after (store : Store) : Handling.Event → Store
  | .exchange (.create record) (.ok ()) => store.put record.scope record
  | .exchange (.update key _ record) (.ok ()) => store.put key record
  | _ => store

namespace Surroundings

variable {World Result : Type} (surroundings : Surroundings World)

theorem store_respond (query : Query) (site : Site World) :
    (surroundings.respond query site).2.store =
      site.store.after (.exchange query (surroundings.respond query site).1) := by
  cases query with
  | create record =>
      rcases surroundings.respond_create record site with
        ⟨⟨error, refused⟩, unchanged⟩ | ⟨written, -, stored⟩
      · rw [refused, unchanged]
        rfl
      · rw [written, stored]
        rfl
  | update key expected record =>
      rcases surroundings.respond_update key expected record site with
        ⟨⟨error, refused⟩, unchanged⟩ | ⟨written, -, stored⟩
      · rw [refused, unchanged]
        rfl
      · rw [written, stored]
        rfl
  | read key => exact (surroundings.respond_read key site).2
  | _ => rfl

/-- A run leaves a store in memory as the events of its transcript have made it. -/
theorem store_run (dialogue : Handling Result) (site : Site World) :
    (dialogue.run surroundings.respond site).state.store =
      (dialogue.run surroundings.respond site).transcript.foldl Store.after
        site.store := by
  induction dialogue generalizing site with
  | done result => rfl
  | ask query next hypothesis =>
      refine (hypothesis _ (surroundings.respond query site).2).trans ?_
      rw [store_respond]
      rfl
  | tell note next hypothesis => exact hypothesis site

end Surroundings

namespace Reported

open Handling Notification

variable {transcript : List Event} {terms : Terms} {key : ScopeKey}

theorem foldl_calls (transcript : List Event) (store : Store) :
    (calls transcript).foldl Store.after store = transcript.foldl Store.after store := by
  induction transcript generalizing store with
  | nil => rfl
  | cons event rest hypothesis =>
      rcases event with ⟨query, reply⟩ | note
      · cases query <;> exact hypothesis _
      · exact hypothesis store

/-- What a store holds after a commit: the planned record, if there is a slot. -/
def committedStore (terms : Terms) (key : ScopeKey) (store : Store) :
    Except SchedulerError Slot → Store
  | .ok slot =>
    store.put key (ScheduleRecord.planned key slot.plannedAt terms.waitThreshold)
  | .error _ => store

theorem foldl_attemptCalls_error (threshold : UInt64) (now : Int64)
    (previous : Option ScheduleRecord) (error : StoreError) (store : Store) :
    (Retrying.attemptCalls key threshold now previous (.error error)).foldl
      Store.after store = store := by
  cases previous <;> rfl

theorem foldl_attemptCalls_ok (threshold : UInt64) (now : Int64)
    (previous : Option ScheduleRecord) (store : Store) :
    (Retrying.attemptCalls key threshold now previous (.ok ())).foldl Store.after store =
      store.put key
        (ScheduleRecord.planned key (plan previous threshold now) threshold) := by
  cases previous <;> rfl

theorem foldl_lost (threshold : UInt64) (lost : List Retrying.LostAttempt)
    (store : Store) :
    (lost.flatMap (Retrying.LostAttempt.calls key threshold)).foldl Store.after store =
      store := by
  induction lost with
  | nil => rfl
  | cons first others hypothesis =>
      rw [List.flatMap_cons, List.foldl_append, Retrying.LostAttempt.calls,
        List.foldl_append, foldl_attemptCalls_error]
      exact hypothesis

theorem foldl_last {number : Nat} {last : List Event}
    {committed : Except SchedulerError Slot}
    (ending : Retrying.LastAttempt terms key number last committed) (store : Store) :
    last.foldl Store.after store = committedStore terms key store committed := by
  cases ending with
  | committed now previous => exact foldl_attemptCalls_ok _ now previous store
  | unread now blamed => rfl
  | unwritten now previous other blamed =>
      exact foldl_attemptCalls_error _ now previous _ store
  | exhausted now previous conflict final =>
      exact foldl_attemptCalls_error _ now previous _ store

theorem foldl_commit {committed : Except SchedulerError Slot}
    (yields : (commit terms key).Yields transcript committed) (store : Store) :
    transcript.foldl Store.after store = committedStore terms key store committed := by
  rcases Retrying.commit_cases yields with
    ⟨rfl, rfl⟩ | ⟨lost, last, number, called, ending⟩
  · rfl
  · rw [← foldl_calls, called, List.foldl_append, foldl_lost, foldl_last ending]

/-! ## Planned times without a date -/

theorem className_of_blamed {error : StoreError} {failure : SchedulerError}
    (blamed : Retrying.Blamed error failure) :
    failure.className ≠ "InvalidTimestamp" := by
  cases blamed with
  | corrupt reason => simp [SchedulerError.className]
  | unavailable error wellFormed => simp [SchedulerError.className]

/-- The failure of a commit is never that its planned time has no date. -/
theorem className_of_commit {failure : SchedulerError}
    (yields : (commit terms key).Yields transcript (.error failure)) :
    failure.className ≠ "InvalidTimestamp" := by
  rcases Retrying.commit_cases yields with ⟨-, same⟩ | ⟨lost, last, number, -, ending⟩
  · cases same
    simp [SchedulerError.className]
  · cases ending with
    | unread now blamed => exact className_of_blamed blamed
    | unwritten now previous other blamed => exact className_of_blamed blamed
    | exhausted now previous conflict final => simp [SchedulerError.className]

/-- A planned time within the years that dates are written for. -/
def HasDate (plannedAt : Int64) : Prop :=
  Civil.Moment.leastSecond ≤ plannedAt.toInt ∧
    plannedAt.toInt ≤ Civil.Moment.greatestSecond

instance (plannedAt : Int64) : Decidable (HasDate plannedAt) :=
  inferInstanceAs (Decidable (_ ∧ _))

theorem successCallback_error {plannedAt : Int64} {details : Json.Members}
    {failure : SchedulerError}
    (unworded : SuccessCallback.of plannedAt details = .error failure) :
    failure = .invalidTimestamp plannedAt ∧ ¬ HasDate plannedAt := by
  unfold HasDate
  unfold SuccessCallback.of plannedTimestamp Civil.Moment.textOfSeconds? at unworded
  split at unworded
  · next dated =>
      split at dated
      · cases unworded
      · cases dated
  · next undated =>
      split at undated
      · cases undated
      · next outside =>
          cases unworded
          exact ⟨rfl, outside⟩

/-- A failure is reported for a commit that failed, or for a slot that was committed
at a time without a date. -/
theorem worded_error {request : Request} {committed : Except SchedulerError Slot}
    {failure : SchedulerError} (unworded : worded request committed = .error failure) :
    committed = .error failure ∨
    ∃ slot, committed = .ok slot ∧ failure = .invalidTimestamp slot.plannedAt ∧
      ¬ HasDate slot.plannedAt := by
  cases committed with
  | error error =>
      cases unworded
      exact .inl rfl
  | ok slot =>
      rw [worded_ok] at unworded
      cases text : SuccessCallback.of slot.plannedAt request.details with
      | ok callback =>
          rw [text] at unworded
          cases unworded
      | error error =>
          rw [text] at unworded
          cases unworded
          exact .inr ⟨slot, rfl, successCallback_error text⟩

theorem commit_of_reported {request : Request} {disposition : Disposition}
    {token : ContinuationToken} {callback : FailureCallback}
    {reply : Except NotifyError Unit}
    (yields : (handleRequest terms request).Yields transcript disposition)
    (reported : .exchange (.notifyFailure token callback) reply ∈ transcript) :
    ∃ committing committed failure,
      (commit terms request.scope).Yields committing committed ∧
      worded request committed = .error failure ∧ callback = .of failure ∧
      calls transcript = calls committing ++
        [(Delivery.failure request.token callback reply).event] := by
  have delivered : .failure token callback reply ∈ deliveries transcript :=
    List.mem_filterMap.mpr ⟨_, reported, rfl⟩
  obtain ⟨committing, committed, commits, ⟨failure, answer, unworded, called, -⟩ |
    ⟨slot, success, recording, answer, -, called, recorded, -⟩⟩ :=
    handleRequest_yields yields
  all_goals have quiet := deliveries_commit commits
  all_goals rw [← deliveries_calls] at quiet delivered
  · rw [called, deliveries_append, quiet] at delivered
    obtain ⟨rfl, rfl, rfl⟩ : token = request.token ∧ callback = .of failure ∧
        reply = answer := by
      simpa [deliveries] using delivered
    exact ⟨committing, committed, failure, commits, unworded, rfl, called⟩
  · rw [called, deliveries_append, deliveries_append, quiet, recorded.deliveries_eq] at delivered
    simp [deliveries] at delivered

/-- A request whose workflow is told of a failure leaves a store in memory as it
was, unless the failure is that the planned time has no date.  In that case the
slot at this time is committed, and its record is what the store now holds for
the scope. -/
theorem store_of_reported_failure {World : Type} (surroundings : Surroundings World)
    (site : Site World) (terms : Terms) (request : Request) (token : ContinuationToken)
    (callback : FailureCallback) (reply : Except NotifyError Unit)
    (reported : .exchange (.notifyFailure token callback) reply ∈
      ((handleRequest terms request).run surroundings.respond site).transcript) :
    let store := ((handleRequest terms request).run surroundings.respond site).state.store
    (callback.className ≠ "InvalidTimestamp" → store = site.store) ∧
    (callback.className = "InvalidTimestamp" → ∃ plannedAt, ¬ HasDate plannedAt ∧
      callback = .of (.invalidTimestamp plannedAt) ∧
      store = site.store.put request.scope
        (ScheduleRecord.planned request.scope plannedAt terms.waitThreshold)) := by
  intro store
  have yields :=
    Dialogue.yields_run surroundings.respond (handleRequest terms request) site
  obtain ⟨committing, committed, failure, commits, unworded, rfl, called⟩ :=
    commit_of_reported yields reported
  have left : store = committedStore terms request.scope site.store committed := by
    refine (surroundings.store_run (handleRequest terms request) site).trans ?_
    rw [← foldl_calls, called, List.foldl_append, foldl_calls, foldl_commit commits]
    rfl
  rw [left]
  rcases worded_error unworded with rfl | ⟨slot, rfl, rfl, undated⟩
  · exact ⟨fun _ => rfl, fun invalid => absurd invalid (className_of_commit commits)⟩
  · exact ⟨fun valid => absurd rfl valid, fun _ => ⟨slot.plannedAt, undated, rfl, rfl⟩⟩

/-- The slot is at the end of the window, and the write for it fails on its way.  The
failure is reported, and the store still holds the record that was read. -/
theorem store_behind_failed_write :
    let key : ScopeKey := ⟨"111111111111-us-east-1"⟩
    let failing : Surroundings Unit :=
      { Surroundings.steady 1030 with
        fault := fun query _ =>
          match query with
          | .update .. => some (.unavailable "down")
          | _ => none }
    let request : Request := ⟨key, ⟨"token-a"⟩, [], 0⟩
    let record : ScheduleRecord := .planned key 1000 60
    let next : ScheduleRecord := .planned key (plan (some record) 60 1030) 60
    let stored : Store := Store.empty.put key record
    let run := (handleRequest ⟨60, .standard, false⟩ request).run failing.respond ⟨stored, ()⟩
    next.lastExecutedAt = 1060 ∧
      .exchange (.update key 1000 next) (.error (.unavailable "down")) ∈ run.transcript ∧
      run.state.store = stored := by
  intro key failing request record next stored run
  have failed : .exchange (.update key 1000 next) (.error (.unavailable "down")) ∈
      run.transcript :=
    .tail _ (.tail _ (.head _))
  have reported : .exchange (.notifyFailure ⟨"token-a"⟩
        ⟨"StoreUnavailable", "scheduling store unavailable: down"⟩) (.ok ()) ∈
      run.transcript :=
    .tail _ (.tail _ (.tail _ (.tail _ (.head _))))
  exact ⟨by decide, failed, (store_of_reported_failure failing ⟨stored, ()⟩ ⟨60, .standard, false⟩
    request _ _ _ reported).1 (by decide)⟩

/-- With a window that reaches beyond the last date, a request whose workflow is
told of a failure has pushed back its scope all the same. -/
theorem slot_taken_beyond_last_date :
    ¬ ∀ (surroundings : Surroundings Unit) (site : Site Unit) (terms : Terms)
      (request : Request) (token : ContinuationToken) (callback : FailureCallback)
      (reply : Except NotifyError Unit),
      .exchange (.notifyFailure token callback) reply ∈
        ((handleRequest terms request).run surroundings.respond site).transcript →
      ((handleRequest terms request).run surroundings.respond site).state.store =
        site.store := by
  intro unchanged
  have kept := unchanged (Surroundings.steady 1000)
    ⟨Store.empty.put ⟨"111111111111-us-east-1"⟩
      (.planned ⟨"111111111111-us-east-1"⟩ 1000 9000000000000), ()⟩
    ⟨9000000000000, .standard, false⟩ ⟨⟨"111111111111-us-east-1"⟩, ⟨"token-a"⟩, [], 0⟩
    ⟨"token-a"⟩ (.of (.invalidTimestamp 9000000001000)) (.ok ())
    (.tail _ (.tail _ (.tail _ (.tail _ (.tail _ (.head _))))))
  have taken := congrArg (fun store => store.get? ⟨"111111111111-us-east-1"⟩) kept
  exact absurd taken (by decide)

end Reported

end Pacing
