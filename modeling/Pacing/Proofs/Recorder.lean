import Pacing.Handling.Rehearsal
import Pacing.Proofs.Notification

/-!
# The recorder only listens

A delay is recorded between the commit of a slot and the notification of the workflow,
where a failure could do most harm: the slot is taken and nobody knows of it.  So a
recorder of any kind, or none, leaves everything else as it is: all that the other
collaborators are asked, in its order, and the disposition of the request.  When the
request has arrived matters to the recorder alone.
-/

namespace Pacing.Recording

open Handling Notification

/-! ## Collaborators with a recorder of their own -/

/-- The collaborators other than the recorder, in a world that goes on with each query. -/
abbrev Others (World : Type) := (query : Query) → World → query.Reply × World

/-- A recorder, which keeps a journal. -/
abbrev Recorder (Journal : Type) := Int → Journal → Except MetricsError Unit × Journal

variable {World Journal Result Further : Type} (others : Others World)
  (recorder : Recorder Journal)

def respond (query : Query) (state : World × Journal) : query.Reply × (World × Journal) :=
  match query with
  | .record delay =>
    let recorded := recorder delay state.2
    (recorded.1, (state.1, recorded.2))
  | query =>
    let replied := others query state.1
    (replied.1, (replied.2, state.2))

/-- Whether an event is a call of the recorder. -/
def isRecording : Event → Bool
  | .exchange (.record _) _ => true
  | _ => false

/-- What is asked of the other collaborators, and what they reply. -/
def unrecorded (transcript : List Event) : List Event :=
  transcript.filter fun event =>
    match event with
    | .exchange (.record _) _ => false
    | .exchange .. => true
    | .note _ => false

theorem unrecorded_append (earlier later : List Event) :
    unrecorded (earlier ++ later) = unrecorded earlier ++ unrecorded later :=
  List.filter_append earlier later

theorem respond_of_other {query : Query} (other : ∀ delay, query ≠ .record delay)
    (world : World) (journal : Journal) :
    respond others recorder query (world, journal) =
      ((others query world).1, ((others query world).2, journal)) := by
  cases query with
  | record delay => exact absurd rfl (other delay)
  | _ => rfl

/-- A run in which nothing is recorded is the same with any recorder. -/
theorem run_of_silent {dialogue : Handling Result} {world : World}
    (silent : ∀ event ∈ (dialogue.run others world).transcript, isRecording event = false)
    (journal : Journal) :
    dialogue.run (respond others recorder) (world, journal) =
      { result := (dialogue.run others world).result
        state := ((dialogue.run others world).state, journal)
        transcript := (dialogue.run others world).transcript } := by
  induction dialogue generalizing world with
  | done result => rfl
  | ask query next induction =>
      obtain ⟨here, behind⟩ := List.forall_mem_cons.mp silent
      have other : ∀ delay, query ≠ .record delay := by
        rintro delay rfl
        cases here
      simp only [Dialogue.run, respond_of_other others recorder other, induction _ behind]
  | tell note next induction =>
      obtain ⟨-, behind⟩ := List.forall_mem_cons.mp silent
      simp only [Dialogue.run, induction behind]

/-- A run with a recorder does what a run without one does. -/
structure Unaffected
    (run : Dialogue.Run Query Query.Reply Note Result (World × Journal))
    (reference : Dialogue.Run Query Query.Reply Note Result World) : Prop where
  result : run.result = reference.result
  world : run.state.1 = reference.state
  asked : unrecorded run.transcript = unrecorded reference.transcript

variable {others recorder}

theorem Unaffected.of_silent {dialogue : Handling Result} {world : World}
    (silent : ∀ event ∈ (dialogue.run others world).transcript, isRecording event = false)
    (journal : Journal) :
    Unaffected (dialogue.run (respond others recorder) (world, journal))
      (dialogue.run others world) := by
  rw [run_of_silent others recorder silent journal]
  exact ⟨rfl, rfl, rfl⟩

theorem Unaffected.bind {dialogue : Handling Result}
    {proceed onward : Result → Handling Further} {world : World} {journal : Journal}
    (silent : ∀ event ∈ (dialogue.run others world).transcript, isRecording event = false)
    (further : ∀ result reached,
      Unaffected ((proceed result).run (respond others recorder) (reached, journal))
        ((onward result).run others reached)) :
    Unaffected ((dialogue.bind proceed).run (respond others recorder) (world, journal))
      ((dialogue.bind onward).run others world) := by
  obtain ⟨result, reached, asked⟩ :=
    further (dialogue.run others world).result (dialogue.run others world).state
  rw [Dialogue.run_bind, Dialogue.run_bind, run_of_silent others recorder silent journal]
  constructor
  · exact result
  · exact reached
  · dsimp only
    rw [unrecorded_append, unrecorded_append, asked]

theorem unrecorded_note (note : Note) (rest : List Event) :
    unrecorded (.note note :: rest) = unrecorded rest := rfl

theorem Unaffected.done (result : Result) (world : World) (journal : Journal) :
    Unaffected ((Dialogue.done result).run (respond others recorder) (world, journal))
      ((Dialogue.done result).run others world) :=
  ⟨rfl, rfl, rfl⟩

/-- The notes may differ, since they tell of the delay. -/
theorem Unaffected.tell {note noted : Note} {next onward : Handling Result} {world : World}
    {journal : Journal}
    (further : Unaffected (next.run (respond others recorder) (world, journal))
      (onward.run others world)) :
    Unaffected ((Dialogue.tell note next).run (respond others recorder) (world, journal))
      ((Dialogue.tell noted onward).run others world) := by
  constructor
  · exact further.result
  · exact further.world
  · simpa only [Dialogue.run, unrecorded_note] using further.asked

theorem Unaffected.ask {query : Query} {next onward : query.Reply → Handling Result}
    (other : ∀ delay, query ≠ .record delay) {world : World} {journal : Journal}
    (further : ∀ reply reached,
      Unaffected ((next reply).run (respond others recorder) (reached, journal))
        ((onward reply).run others reached)) :
    Unaffected ((Dialogue.ask query next).run (respond others recorder) (world, journal))
      ((Dialogue.ask query onward).run others world) := by
  obtain ⟨result, reached, asked⟩ := further (others query world).1 (others query world).2
  simp only [Dialogue.run, respond_of_other others recorder other]
  constructor
  · exact result
  · exact reached
  · rw [← List.singleton_append, unrecorded_append, asked, ← unrecorded_append,
      List.singleton_append]

/-- Whether a delay is recorded or not, what comes behind it starts from the same world. -/
theorem Unaffected.recordDelay {proceed : Unit → Handling Result}
    {reference : Dialogue.Run Query Query.Reply Note Result World} {world : World}
    (further : ∀ journal : Journal,
      Unaffected ((proceed ()).run (respond others recorder) (world, journal)) reference)
    (records : Bool) (plannedAt observedAt : Int64) (journal : Journal) :
    Unaffected
      (((Handling.recordDelay records plannedAt observedAt).bind proceed).run
        (respond others recorder) (world, journal))
      reference := by
  cases records with
  | false => exact further journal
  | true =>
      rcases replied : recorder (delaySeconds plannedAt observedAt) journal with
        ⟨error | ⟨⟩, written⟩
      all_goals
        obtain ⟨result, reached, asked⟩ := further written
        simp only [Handling.recordDelay, Handling.ask, Handling.tell, Dialogue.request,
          Dialogue.say, Dialogue.run, Dialogue.monadBind_eq_bind, Dialogue.bind_ask,
          Dialogue.bind_done, Dialogue.bind_tell, if_true, respond, replied]
        exact ⟨result, reached, asked⟩

/-! ## What a commit asks -/

/-- An event that neither writes a record nor calls the recorder. -/
def Idle (event : Event) : Prop :=
  isRecording event = false ∧ written? event = none

variable {terms : Terms} {key : ScopeKey} {transcript : List Event}

theorem idle_attemptCalls (threshold : UInt64) (now : Int64)
    (previous : Option ScheduleRecord) (error : StoreError) :
    ∀ event ∈ Retrying.attemptCalls key threshold now previous (.error error), Idle event := by
  cases previous with
  | none => simp [Retrying.attemptCalls, Retrying.writeCall, Idle, isRecording, written?]
  | some record => simp [Retrying.attemptCalls, Retrying.writeCall, Idle, isRecording, written?]

theorem idle_lost (threshold : UInt64) (lost : List Retrying.LostAttempt) :
    ∀ event ∈ lost.flatMap (Retrying.LostAttempt.calls key threshold), Idle event := by
  intro event member
  obtain ⟨attempt, -, called⟩ := List.mem_flatMap.mp member
  rcases List.mem_append.mp called with attempted | slept
  · exact idle_attemptCalls _ _ _ _ event attempted
  · cases List.mem_singleton.mp slept
    exact ⟨rfl, rfl⟩

/-- The calls of a commit: idle ones, and behind them the write of the slot if there is
one. -/
inductive CommitCalls (terms : Terms) (key : ScopeKey) :
    List Event → Except SchedulerError Slot → Prop where
  | failed {idle : List Event} (error : SchedulerError)
      (allIdle : ∀ event ∈ idle, Idle event) : CommitCalls terms key idle (.error error)
  | granted {idle : List Event} {write : Event} (slot : Slot)
      (allIdle : ∀ event ∈ idle, Idle event) (silent : isRecording write = false)
      (written : written? write =
        some (ScheduleRecord.planned key slot.plannedAt terms.waitThreshold)) :
      CommitCalls terms key (idle ++ [write]) (.ok slot)

theorem commitCalls_last {number : Nat} {last : List Event}
    {result : Except SchedulerError Slot}
    (ending : Retrying.LastAttempt terms key number last result) :
    CommitCalls terms key last result := by
  cases ending with
  | committed now previous =>
      have idle : ∀ event ∈ [.exchange .now now, .exchange (.read key) (.ok previous)],
          Idle event := by
        simp [Idle, isRecording, written?]
      refine .granted _ idle ?_ ?_
      · cases previous <;> rfl
      · cases previous <;> rfl
  | unread now blamed => exact .failed _ (by simp [Idle, isRecording, written?])
  | unwritten now previous other blamed => exact .failed _ (idle_attemptCalls _ now previous _)
  | exhausted now previous conflict final =>
      exact .failed _ (idle_attemptCalls _ now previous _)

theorem CommitCalls.prepend {earlier last : List Event} {result : Except SchedulerError Slot}
    (allIdle : ∀ event ∈ earlier, Idle event) (ending : CommitCalls terms key last result) :
    CommitCalls terms key (earlier ++ last) result := by
  cases ending with
  | failed error idle => exact .failed error (List.forall_mem_append.mpr ⟨allIdle, idle⟩)
  | granted slot idle silent written =>
      rw [← List.append_assoc]
      exact .granted slot (List.forall_mem_append.mpr ⟨allIdle, idle⟩) silent written

theorem commit_yields {result : Except SchedulerError Slot}
    (yields : (commit terms key).Yields transcript result) :
    CommitCalls terms key (calls transcript) result := by
  rcases Retrying.commit_cases yields with
    ⟨rfl, rfl⟩ | ⟨lost, last, number, called, ending⟩
  · exact .failed _ (List.forall_mem_nil _)
  · rw [called]
    exact (commitCalls_last ending).prepend (idle_lost terms.waitThreshold lost)

theorem CommitCalls.silent {called : List Event} {result : Except SchedulerError Slot}
    (commits : CommitCalls terms key called result) :
    ∀ event ∈ called, isRecording event = false := by
  cases commits with
  | failed error allIdle => exact fun event member => (allIdle event member).1
  | granted slot allIdle silent written =>
      refine List.forall_mem_append.mpr ⟨fun event member => (allIdle event member).1, ?_⟩
      exact List.forall_mem_singleton.mpr silent

theorem isRecording_of_calls {transcript : List Event}
    (silent : ∀ event ∈ calls transcript, isRecording event = false) :
    ∀ event ∈ transcript, isRecording event = false := by
  intro event member
  cases recording : isRecording event with
  | false => rfl
  | true =>
      have called : isCall event = true := by
        rcases event with ⟨query, reply⟩ | note
        · cases query <;> first | rfl | cases recording
        · cases recording
      have here : event ∈ calls transcript := List.mem_filter.mpr ⟨member, called⟩
      rw [silent event here] at recording
      cases recording

/-! ## Requests with and without a recorder -/

theorem commitFrom_records (threshold : UInt64) (retry : RetryPolicy) (records : Bool)
    (remaining number : Nat) :
    commitFrom ⟨threshold, retry, records⟩ key remaining number =
      commitFrom ⟨threshold, retry, false⟩ key remaining number := by
  induction remaining generalizing number with
  | zero => rfl
  | succ remaining induction => simp only [commitFrom, induction]

theorem commitCallback_records (threshold : UInt64) (retry : RetryPolicy) (records : Bool)
    (request : Request) (observedAt : Int64) :
    commitCallback ⟨threshold, retry, records⟩ { request with observedAt } =
      commitCallback ⟨threshold, retry, false⟩ request := by
  simp only [commitCallback, commit, commitFrom_records threshold retry records]

theorem silent_commitCallback {request : Request}
    {result : Except SchedulerError (Slot × SuccessCallback)}
    (yields : (commitCallback terms request).Yields transcript result) :
    ∀ event ∈ transcript, isRecording event = false := by
  obtain ⟨committed, commits, -⟩ := commitCallback_yields yields
  exact isRecording_of_calls (commit_yields commits).silent

theorem silent_reportFailure {token : ContinuationToken} {scope : Option ScopeKey}
    {failure : SchedulerError} {disposition : Disposition}
    (yields : (reportFailure token scope failure).Yields transcript disposition) :
    ∀ event ∈ transcript, isRecording event = false := by
  obtain ⟨reply, called, -⟩ := reportFailure_yields yields
  apply isRecording_of_calls
  rw [called]
  exact List.forall_mem_singleton.mpr rfl

theorem unaffected_handleRequest (others : Others World) (recorder : Recorder Journal)
    (threshold : UInt64) (retry : RetryPolicy) (records : Bool) (request : Request)
    (observedAt : Int64) (world : World) (journal : Journal) :
    Unaffected
      ((handleRequest ⟨threshold, retry, records⟩ { request with observedAt }).run
        (respond others recorder) (world, journal))
      ((handleRequest ⟨threshold, retry, false⟩ request).run others world) := by
  unfold handleRequest
  rw [commitCallback_records]
  apply Unaffected.bind
  · exact silent_commitCallback (Dialogue.yields_run others _ world)
  rintro (error | ⟨slot, callback⟩) reached
  · apply Unaffected.of_silent
    exact silent_reportFailure (Dialogue.yields_run others _ reached)
  · apply Unaffected.recordDelay
    intro journal
    apply Unaffected.ask
    · exact nofun
    rintro (error | ⟨⟩) reached
    · exact .tell (.done _ reached journal)
    · exact .tell (.done _ reached journal)

/-! ## What a recorder is told -/

/-- A slot was committed at a time with a date. -/
def DatedSlot (transcript : List Event) (plannedAt : Int64) : Prop :=
  ∃ event ∈ transcript,
    (written? event).map ScheduleRecord.lastExecutedAt = some plannedAt ∧
      ∃ timestamp, plannedTimestamp plannedAt = .ok timestamp

/-- The recorder was called once, with the delay of a slot, as the last call before the
one that tells the workflow of the slot. -/
def RecordedOnce (request : Request) (transcript : List Event) (plannedAt : Int64) : Prop :=
  ∃ earlier recorded callback told,
    calls transcript = earlier ++
      [.exchange (.record (delaySeconds plannedAt request.observedAt)) recorded,
        .exchange (.notifySuccess request.token callback) told] ∧
    ∀ event ∈ earlier, isRecording event = false

/-- A slot has a callback if its time has a date. -/
theorem exists_worded_iff (request : Request) (committed : Except SchedulerError Slot)
    (slot : Slot) :
    (∃ callback, worded request committed = .ok (slot, callback)) ↔
      committed = .ok slot ∧ ∃ timestamp, plannedTimestamp slot.plannedAt = .ok timestamp := by
  simp only [worded_eq_ok_iff, successCallback_eq_ok_iff]
  constructor
  · rintro ⟨callback, isCommitted, timestamp, dated, -⟩
    exact ⟨isCommitted, timestamp, dated⟩
  · rintro ⟨isCommitted, timestamp, dated⟩
    exact ⟨_, isCommitted, timestamp, dated, rfl⟩

theorem isCall_of_written {event : Event} {record : ScheduleRecord}
    (written : written? event = some record) : isCall event = true := by
  rcases event with ⟨query, reply⟩ | note
  · cases query <;> first | rfl | cases written
  · cases written

/-- Behind a commit nothing is written, so the slots of a request are those of its
commit. -/
theorem datedSlot_iff {committed : Except SchedulerError Slot} {called later : List Event}
    (commits : CommitCalls terms key called committed)
    (isCalled : calls transcript = called ++ later)
    (unwritten : ∀ event ∈ later, written? event = none) (plannedAt : Int64) :
    DatedSlot transcript plannedAt ↔
      ∃ slot, committed = .ok slot ∧ slot.plannedAt = plannedAt ∧
        ∃ timestamp, plannedTimestamp plannedAt = .ok timestamp := by
  constructor
  · rintro ⟨event, member, planned, dated⟩
    obtain ⟨record, written, rfl⟩ := Option.map_eq_some_iff.mp planned
    have here : event ∈ called ++ later := by
      rw [← isCalled]
      exact List.mem_filter.mpr ⟨member, isCall_of_written written⟩
    rcases List.mem_append.mp here with committing | behind
    · cases commits with
      | failed error allIdle =>
          cases (allIdle event committing).2.symm.trans written
      | granted slot allIdle silent granted =>
          rcases List.mem_append.mp committing with idle | isWrite
          · cases (allIdle event idle).2.symm.trans written
          · obtain rfl := List.mem_singleton.mp isWrite
            cases granted.symm.trans written
            exact ⟨slot, rfl, rfl, dated⟩
    · cases (unwritten event behind).symm.trans written
  · rintro ⟨slot, rfl, rfl, dated⟩
    cases commits with
    | @granted idle write _ allIdle silent granted =>
        have member : write ∈ calls transcript := by
          rw [isCalled]
          simp
        exact ⟨write, (List.mem_filter.mp member).1, by rw [granted]; rfl, dated⟩

theorem written?_of_delayCalls {plannedAt observedAt : Int64} {records : Bool}
    {recording : List Event} (recorded : DelayCalls plannedAt observedAt records recording) :
    ∀ event ∈ recording, written? event = none := by
  cases recorded with
  | unrecorded => exact List.forall_mem_nil _
  | recorded reply => exact List.forall_mem_singleton.mpr rfl

theorem silent_of_told {committed : Except SchedulerError Slot} {called : List Event}
    {delivery : Delivery} (commits : CommitCalls terms key called committed)
    (told : calls transcript = called ++ [delivery.event]) :
    ∀ event ∈ transcript, isRecording event = false := by
  apply isRecording_of_calls
  rw [told]
  refine List.forall_mem_append.mpr ⟨commits.silent, List.forall_mem_singleton.mpr ?_⟩
  cases delivery <;> rfl

theorem handleRequest_recordings {request : Request} {disposition : Disposition}
    (yields : (handleRequest terms request).Yields transcript disposition) :
    (∀ plannedAt, DatedSlot transcript plannedAt → terms.records = true →
      RecordedOnce request transcript plannedAt) ∧
    ((∃ event ∈ transcript, isRecording event = true) →
      terms.records = true ∧ ∃ plannedAt, DatedSlot transcript plannedAt) := by
  obtain ⟨committing, committed, commits, ⟨failure, reply, unworded, called, -⟩ |
    ⟨slot, callback, recording, reply, wording, called, recorded, -⟩⟩ :=
    handleRequest_yields yields
  all_goals have committedCalls := commit_yields commits
  · have dated := datedSlot_iff committedCalls called (by simp [Delivery.event, written?])
    constructor
    · intro plannedAt isDated
      obtain ⟨slot, isCommitted, rfl, timestamp⟩ := (dated plannedAt).mp isDated
      obtain ⟨callback, worded⟩ :=
        (exists_worded_iff request committed slot).mpr ⟨isCommitted, timestamp⟩
      cases unworded.symm.trans worded
    · rintro ⟨event, member, isRecorded⟩
      cases (silent_of_told committedCalls called event member).symm.trans isRecorded
  · obtain ⟨isCommitted, hasDate⟩ :=
      (exists_worded_iff request committed slot).mp ⟨callback, wording⟩
    rw [List.append_assoc] at called
    have dated := datedSlot_iff committedCalls called (List.forall_mem_append.mpr
      ⟨written?_of_delayCalls recorded, List.forall_mem_singleton.mpr rfl⟩)
    constructor
    · intro plannedAt isDated records
      obtain ⟨other, alsoCommitted, rfl, -⟩ := (dated plannedAt).mp isDated
      cases isCommitted.symm.trans alsoCommitted
      generalize terms.records = present at recorded records
      cases recorded with
      | unrecorded => cases records
      | recorded answer => exact ⟨_, answer, callback, reply, called, committedCalls.silent⟩
    · rintro ⟨event, member, isRecorded⟩
      refine ⟨?_, slot.plannedAt, (dated _).mpr ⟨slot, isCommitted, rfl, hasDate⟩⟩
      cases records : terms.records with
      | true => rfl
      | false =>
          rw [records] at recorded
          cases recorded
          cases (silent_of_told committedCalls called event member).symm.trans isRecorded

/-- Whatever recorder there is, or none, and whenever a request has arrived: its
disposition, what the other collaborators are asked and reply, and the world in which
they end up are the same.  A recorder is called once, between the last call of the store
and the notification of the workflow, if a slot was committed at a time with a date, and
otherwise never. -/
theorem recorder_unobservable {World Journal Diary : Type} (others : Others World)
    (recorder : Recorder Journal) (another : Recorder Diary) (threshold : UInt64)
    (retry : RetryPolicy) (records alsoRecords : Bool) (request : Request)
    (observedAt : Int64) (world : World) (journal : Journal) (diary : Diary) :
    let run := (handleRequest ⟨threshold, retry, records⟩ request).run
      (respond others recorder) (world, journal)
    let other := (handleRequest ⟨threshold, retry, alsoRecords⟩ { request with observedAt }).run
      (respond others another) (world, diary)
    run.result = other.result ∧ run.state.1 = other.state.1 ∧
      unrecorded run.transcript = unrecorded other.transcript ∧
      (∀ plannedAt, DatedSlot run.transcript plannedAt → records = true →
        RecordedOnce request run.transcript plannedAt) ∧
      ((∃ event ∈ run.transcript, isRecording event = true) →
        records = true ∧ ∃ plannedAt, DatedSlot run.transcript plannedAt) := by
  intro run other
  have first : Unaffected run _ := unaffected_handleRequest others recorder threshold retry
    records request request.observedAt world journal
  have second : Unaffected other _ := unaffected_handleRequest others another threshold retry
    alsoRecords request observedAt world diary
  refine ⟨first.result.trans second.result.symm, first.world.trans second.world.symm,
    first.asked.trans second.asked.symm, ?_⟩
  exact handleRequest_recordings (Dialogue.yields_run (respond others recorder) _ _)

/-- A recorder that fails, and an arrival before all times, beside no recorder at all. -/
theorem failing_recorder_unobservable :
    let others : Others Rehearsal := Rehearsal.respond
    let world := Rehearsal.starting Store.empty
    let failing : Recorder Unit := fun _ _ => (.error ⟨"down"⟩, ())
    let request : Request := ⟨⟨"1-us"⟩, ⟨"token"⟩, [], Int64.minValue⟩
    let run := (handleRequest ⟨60, .standard, true⟩ request).run
      (respond others failing) (world, ())
    let other := (handleRequest ⟨60, .standard, false⟩ { request with observedAt := 0 }).run
      (respond others failing) (world, ())
    run.result = other.result ∧ DatedSlot run.transcript 0 ∧
      RecordedOnce request run.transcript 0 := by
  intro others world failing request run other
  have unobservable := recorder_unobservable others failing failing 60 .standard true false
    request 0 world () ()
  have dated : DatedSlot run.transcript 0 :=
    ⟨_, .tail _ (.tail _ (.head _)), rfl, "1970-01-01T00:00:00Z", rfl⟩
  exact ⟨unobservable.1, dated, unobservable.2.2.2.1 0 dated rfl⟩

end Pacing.Recording
