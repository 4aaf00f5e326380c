import Pacing.Proofs.Batches
import Pacing.Proofs.Indifference

/-!
# Messages that cannot be scheduled

A message that cannot be scheduled calls neither the store nor the recorder.  So a
batch into which such messages are inserted goes on after each of them with the store
as it was, and what is seen of the other messages stays the same.
-/

namespace Pacing.Insertion

open Batches Handling Notification

/-- No request can be read from a record: it has no text as its body, or the body is
no request. -/
def Unschedulable (record : Json) : Prop :=
  ∀ fields body, record = .object fields →
    Json.Members.get? fields "body" = some (.string body) →
      ∀ observedAt request, Request.read body observedAt ≠ .ok request

/-- A record of a larger batch, which was in the batch before or is inserted. -/
structure Placed where
  record : Json
  inserted : Bool

/-- The records that were in the batch before. -/
def originals (placed : List Placed) : List Json :=
  (placed.filter fun entry => !entry.inserted).map Placed.record

/-! ## A single message -/

section Message

variable {Memory World : Type} (company : Company Memory World) (terms : Terms)
  {record : Json}

theorem scopeOf_of_unschedulable (unschedulable : Unschedulable record) :
    scopeOf (QueuedMessage.ofRecord record) = none := by
  cases hasBody : (QueuedMessage.ofRecord record).body with
  | none => simp [scopeOf, hasBody]
  | some body =>
      obtain ⟨fields, isObject, found⟩ := (body_ofRecord_iff record body).mp hasBody
      rw [scopeOf_of_read hasBody 0]
      cases reading : Request.read body 0 with
      | error malformed => rfl
      | ok request => exact absurd reading (unschedulable fields body isObject found 0 request)

theorem unschedulable_iff (record : Json) :
    Unschedulable record ↔ scopeOf (QueuedMessage.ofRecord record) = none := by
  constructor
  · exact scopeOf_of_unschedulable
  · rintro unscoped fields body isObject found observedAt request reading
    have hasBody := (body_ofRecord_iff record body).mpr ⟨fields, isObject, found⟩
    rw [scopeOf_of_read hasBody observedAt, reading] at unscoped
    cases unscoped

instance (record : Json) : Decidable (Unschedulable record) :=
  decidable_of_iff _ (unschedulable_iff record).symm

/-- With no scope to be about there is no call of the store. -/
theorem memory_of_unschedulable (unschedulable : Unschedulable record)
    (state : Circumstances Memory World) :
    ((handleQueued terms (QueuedMessage.ofRecord record)).run
      company.respond state).state.memory = state.memory := by
  have alike := alike_handleQueued terms (QueuedMessage.ofRecord record)
  rw [scopeOf_of_unschedulable unschedulable] at alike
  have respects : Respects company.store none fun memory _ => memory = state.memory := by
    intro call memory other about
    cases about
  have agree : Agree (fun memory _ => memory = state.memory)
      ((handleQueued terms (QueuedMessage.ofRecord record)).run company.respond state)
      ((handleQueued terms (QueuedMessage.ofRecord record)).run company.respond state) :=
    alike.agree respects rfl
  exact agree.memory

theorem ending_of_reported {transcript : List Event} {token : ContinuationToken}
    {about : Option ScopeKey} {failure : SchedulerError} {disposition : Disposition}
    (yields : (reportFailure token about failure).Yields transcript disposition) :
    endingOf disposition ≠ .scheduled := by
  obtain ⟨reply, -, settles⟩ := reportFailure_yields yields
  cases settles with
  | reported => exact nofun
  | undelivered refused => exact nofun

theorem ending_of_unschedulable (unschedulable : Unschedulable record)
    {transcript : List Event} {disposition : Disposition}
    (yields : (handleQueued terms (QueuedMessage.ofRecord record)).Yields transcript
      disposition) :
    endingOf disposition ≠ .scheduled := by
  obtain ⟨observedAt, before, handling, noted, handles, -, -⟩ := handleQueued_yields yields
  unfold handleBody at handles
  cases hasBody : (QueuedMessage.ofRecord record).body with
  | none =>
      rw [hasBody] at handles
      rw [(dropBodiless_yields handles).2]
      exact nofun
  | some body =>
      rw [hasBody] at handles
      obtain ⟨fields, isObject, found⟩ := (body_ofRecord_iff record body).mp hasBody
      dsimp only at handles
      unfold handleMessage at handles
      rcases reading : Request.read body observedAt with ⟨token, error⟩ | request
      · rw [reading] at handles
        cases token with
        | none =>
            obtain ⟨rest, -, behind⟩ := Dialogue.Yields.tell_cases handles
            rw [(Dialogue.Yields.done_cases behind).2]
            exact nofun
        | some token => exact ending_of_reported handles
      · exact absurd reading (unschedulable fields body isObject found observedAt request)

/-- The same message in the same memory is seen to be handled in the same way. -/
theorem agree_of_memory (message : QueuedMessage) {state other : Circumstances Memory World}
    (same : state.memory = other.memory) :
    Agree Eq ((handleQueued terms message).run company.respond state)
      ((handleQueued terms message).run company.respond other) := by
  have respects : Respects company.store (scopeOf message) Eq := by
    rintro call memory _ - rfl
    exact ⟨rfl, rfl⟩
  exact (alike_handleQueued terms message).agree respects same

end Message

/-! ## Batches -/

section Batch

variable {Memory World : Type}

abbrev Runs (Memory World : Type) :=
  List (Dialogue.Run Query Query.Reply Note Disposition (Circumstances Memory World))

/-- What is seen of the records that were in the batch before. -/
def seenOriginals (placed : List Placed) (runs : Runs Memory World) :
    List (Disposition × List Effect) :=
  ((placed.zip runs).filter fun entry => !entry.1.inserted).map fun entry => seen entry.2

def endingsOf (runs : Runs Memory World) : List Ending :=
  runs.map fun run => endingOf run.result

theorem counted_endingsOf (runs : Runs Memory World) (ending : Ending) :
    counted (.ofDispositions (runs.map Dialogue.Run.result)) ending =
      (endingsOf runs).count ending := by
  rw [counted_ofDispositions, List.map_map]
  rfl

/-- The runs of a larger batch compare with those of the batch before: what is seen of
the records that were there is the same, and every inserted record has one ending more,
which is not that it was scheduled. -/
structure Compares (placed : List Placed) (larger smaller : Runs Memory World) : Prop where
  seen : seenOriginals placed larger = smaller.map Handling.seen
  endings : ∃ endings : List Ending,
    endings.length = placed.countP Placed.inserted ∧ .scheduled ∉ endings ∧
      ∀ ending, (endingsOf larger).count ending =
        (endingsOf smaller).count ending + endings.count ending

variable {placed : List Placed} {larger smaller : Runs Memory World}
  {run other : Dialogue.Run Query Query.Reply Note Disposition (Circumstances Memory World)}

theorem Compares.original (compares : Compares placed larger smaller) {record : Json}
    (same : Handling.seen other = Handling.seen run) :
    Compares (⟨record, false⟩ :: placed) (other :: larger) (run :: smaller) := by
  obtain ⟨endings, inserted, unscheduled, counts⟩ := compares.endings
  constructor
  · have behind := compares.seen
    unfold seenOriginals at behind ⊢
    simp [same, behind]
  · refine ⟨endings, by simpa using inserted, unscheduled, ?_⟩
    intro ending
    have result : other.result = run.result := congrArg Prod.fst same
    simp only [endingsOf, List.map_cons, List.count_cons, result] at counts ⊢
    rw [counts ending]
    omega

theorem Compares.inserted (compares : Compares placed larger smaller) {record : Json}
    (unscheduled : endingOf other.result ≠ .scheduled) :
    Compares (⟨record, true⟩ :: placed) (other :: larger) smaller := by
  obtain ⟨endings, inserted, others, counts⟩ := compares.endings
  constructor
  · have behind := compares.seen
    unfold seenOriginals at behind ⊢
    simpa using behind
  · refine ⟨endingOf other.result :: endings, by simpa using inserted, ?_, ?_⟩
    · simp only [List.mem_cons, not_or]
      exact ⟨unscheduled.symm, others⟩
    · intro ending
      simp only [endingsOf, List.map_cons, List.count_cons] at counts ⊢
      rw [counts ending]
      omega

variable (company : Company Memory World) (terms : Terms)

/-- By induction on the larger batch, from memories that are the same: an inserted
record leaves them so, and what was there before makes the same of both. -/
theorem compares_handlings (placed : List Placed)
    (bad : ∀ entry ∈ placed, entry.inserted = true → Unschedulable entry.record)
    {state other : Circumstances Memory World} (same : other.memory = state.memory) :
    let before := (originals placed).map QueuedMessage.ofRecord
    let messages := (placed.map Placed.record).map QueuedMessage.ofRecord
    Compares placed (handlings company.respond terms messages other)
        (handlings company.respond terms before state) ∧
      (stateBehind company.respond terms messages other).memory =
        (stateBehind company.respond terms before state).memory := by
  induction placed generalizing state other with
  | nil => exact ⟨⟨rfl, [], rfl, List.not_mem_nil, fun _ => rfl⟩, same⟩
  | cons entry placed induction =>
      obtain ⟨badEntry, badOthers⟩ := List.forall_mem_cons.mp bad
      obtain ⟨record, inserted⟩ := entry
      cases inserted with
      | true =>
          have unschedulable : Unschedulable record := badEntry rfl
          have kept := memory_of_unschedulable company terms unschedulable other
          obtain ⟨compares, memory⟩ := induction badOthers (kept.trans same)
          refine ⟨compares.inserted ?_, memory⟩
          exact ending_of_unschedulable terms unschedulable (Dialogue.yields_run _ _ other)
      | false =>
          have agree := agree_of_memory company terms (QueuedMessage.ofRecord record) same
          obtain ⟨compares, memory⟩ := induction badOthers agree.memory
          exact ⟨compares.original agree.seen, memory⟩

end Batch

/-- Records that cannot be scheduled are inserted into a batch, anywhere and any number
of them.  Then the records that were there end as they did, with the same calls of the
store, values of delays and calls of the notifier; the store ends up in the same
memory; and each inserted record adds one to a count other than that of the scheduled
messages. -/
theorem insertion_unobservable {Memory World : Type} (company : Company Memory World)
    (terms : Terms) (memory : Memory) (world other : World) (placed : List Placed)
    (event extended : Json) (batch : IsBatch (originals placed) event)
    (larger : IsBatch (placed.map Placed.record) extended)
    (bad : ∀ entry ∈ placed, entry.inserted = true → Unschedulable entry.record) :
    let run := (handleEvent terms event).run company.respond ⟨memory, world⟩
    let extendedRun := (handleEvent terms extended).run company.respond ⟨memory, other⟩
    let handled := handlings company.respond terms
      ((originals placed).map QueuedMessage.ofRecord) ⟨memory, world⟩
    let handledAll := handlings company.respond terms
      ((placed.map Placed.record).map QueuedMessage.ofRecord) ⟨memory, other⟩
    seenOriginals placed handledAll = handled.map seen ∧
      extendedRun.state.memory = run.state.memory ∧
      ∃ tally extendedTally, ∃ endings : List Ending,
        run.result = .ok tally ∧ extendedRun.result = .ok extendedTally ∧
        extendedTally.status = tally.status ∧
        endings.length = placed.countP Placed.inserted ∧ .scheduled ∉ endings ∧
        ∀ ending, counted extendedTally ending =
          counted tally ending + endings.count ending := by
  intro run extendedRun handled handledAll
  have handledRun : run = _ := run_handleEvent company.respond terms batch ⟨memory, world⟩
  have handledExtended : extendedRun = _ :=
    run_handleEvent company.respond terms larger ⟨memory, other⟩
  obtain ⟨⟨sameSeen, endings, inserted, unscheduled, counts⟩, sameMemory⟩ :=
    compares_handlings company terms placed bad
      (show (⟨memory, other⟩ : Circumstances Memory World).memory =
        (⟨memory, world⟩ : Circumstances Memory World).memory from rfl)
  refine ⟨sameSeen, ?_, ?_⟩
  · rw [handledRun, handledExtended]
    exact sameMemory
  · refine ⟨_, _, endings, congrArg Dialogue.Run.result handledRun,
      congrArg Dialogue.Run.result handledExtended, ?_, inserted, unscheduled, ?_⟩
    · rw [status_ofDispositions, status_ofDispositions]
    intro ending
    rw [counted_endingsOf, counted_endingsOf]
    exact counts ending

/-- Before a request comes a record without a text as its body, and behind it one whose
message has a token and nothing else. -/
theorem insertion_around_request :
    let company := Company.calm 1000
    let terms : Terms := ⟨60, .standard, true⟩
    let request := requestRecord "1" "us" "first"
    let stray := recordOf (.string (Json.object [("TaskToken", .string "second")]).compact)
    let placed : List Placed := [⟨recordOf .null, true⟩, ⟨request, false⟩, ⟨stray, true⟩]
    let event := eventOf (originals placed)
    let extended := eventOf (placed.map Placed.record)
    let run := (handleEvent terms event).run company.respond ⟨Store.empty, ()⟩
    let extendedRun := (handleEvent terms extended).run company.respond ⟨Store.empty, ()⟩
    (IsBatch (originals placed) event ∧ IsBatch (placed.map Placed.record) extended ∧
      ∀ entry ∈ placed, entry.inserted = true → Unschedulable entry.record) ∧
    extendedRun.state.memory = run.state.memory ∧
      run.result = .ok ⟨"ok", 1, 0, 0, 0⟩ ∧
      extendedRun.result = .ok ⟨"ok", 1, 1, 1, 0⟩ := by
  intro company terms request stray placed event extended run extendedRun
  have batch : IsBatch (originals placed) event := by
    apply isBatch_eventOf
    · exact List.cons_ne_nil _ _
    · decide +kernel
  have larger : IsBatch (placed.map Placed.record) extended := by
    apply isBatch_eventOf
    · exact List.cons_ne_nil _ _
    · decide +kernel
  have bad : ∀ entry ∈ placed, entry.inserted = true → Unschedulable entry.record := by
    decide +kernel
  obtain ⟨-, memory, -⟩ := insertion_unobservable company terms Store.empty () () placed event
    extended batch larger bad
  exact ⟨⟨batch, larger, bad⟩, memory, by decide +kernel, by decide +kernel⟩

end Pacing.Insertion
