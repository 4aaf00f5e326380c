/-!
# Dialogues

A computation that talks to collaborators: it asks a query, goes on with the
reply, and may tell notes on the way, until it is done.  A dialogue decides
what is asked and in which order, and leaves open who replies and how.

Running a dialogue needs somebody to reply.  The run gives the result, the
state that the replies have led to, and the transcript of everything that was
asked, replied and told, in order.  A dialogue can also be interpreted: each
of its queries becomes a dialogue with other collaborators.
-/

namespace Pacing

inductive Dialogue (Query : Type) (Reply : Query → Type) (Note Result : Type) where
  | done (result : Result)
  | ask (query : Query) (next : Reply query → Dialogue Query Reply Note Result)
  | tell (note : Note) (next : Dialogue Query Reply Note Result)

namespace Dialogue

variable {Query : Type} {Reply : Query → Type} {Note Result Further State : Type}

/-- Goes on with another dialogue when the first one is done. -/
def bind (dialogue : Dialogue Query Reply Note Result)
    (proceed : Result → Dialogue Query Reply Note Further) :
    Dialogue Query Reply Note Further :=
  match dialogue with
  | .done result => proceed result
  | .ask query next => .ask query fun reply => (next reply).bind proceed
  | .tell note next => .tell note (next.bind proceed)

instance : Monad (Dialogue Query Reply Note) where
  pure := .done
  bind := bind

/-- Asks a query and is done with its reply. -/
def request (query : Query) : Dialogue Query Reply Note (Reply query) :=
  .ask query .done

/-- Tells a note and is done. -/
def say (note : Note) : Dialogue Query Reply Note Unit :=
  .tell note (.done ())

/-! ## Running -/

/-- One entry of a transcript. -/
inductive Event (Query : Type) (Reply : Query → Type) (Note : Type) where
  | exchange (query : Query) (reply : Reply query)
  | note (note : Note)

/-- What a run leads to. -/
structure Run (Query : Type) (Reply : Query → Type) (Note Result State : Type) where
  result : Result
  state : State
  transcript : List (Event Query Reply Note)

/-- Runs a dialogue with replies that depend on a state and change it. -/
def run (respond : (query : Query) → State → Reply query × State) :
    Dialogue Query Reply Note Result → State → Run Query Reply Note Result State
  | .done result, state => ⟨result, state, []⟩
  | .ask query next, state =>
    let reply := respond query state
    let rest := (next reply.1).run respond reply.2
    { rest with transcript := .exchange query reply.1 :: rest.transcript }
  | .tell note next, state =>
    let rest := next.run respond state
    { rest with transcript := .note note :: rest.transcript }

/-- The notes of a transcript. -/
def notes (transcript : List (Event Query Reply Note)) : List Note :=
  transcript.filterMap fun
    | .exchange .. => none
    | .note note => some note

/-- The queries of a transcript. -/
def queries (transcript : List (Event Query Reply Note)) : List Query :=
  transcript.filterMap fun
    | .exchange query _ => some query
    | .note _ => none

/-! ## Interpreting -/

/-- Lets each query be answered by a dialogue with other collaborators. -/
def interpret {Inner : Type} {InnerReply : Inner → Type}
    (translate : (query : Query) → Dialogue Inner InnerReply Note (Reply query)) :
    Dialogue Query Reply Note Result → Dialogue Inner InnerReply Note Result
  | .done result => .done result
  | .ask query next => (translate query).bind fun reply => (next reply).interpret translate
  | .tell note next => .tell note (next.interpret translate)

/-! ## Equations -/

@[simp] theorem bind_done (result : Result)
    (proceed : Result → Dialogue Query Reply Note Further) :
    (Dialogue.done result).bind proceed = proceed result := rfl

@[simp] theorem bind_ask (query : Query)
    (next : Reply query → Dialogue Query Reply Note Result)
    (proceed : Result → Dialogue Query Reply Note Further) :
    (Dialogue.ask query next).bind proceed =
      .ask query fun reply => (next reply).bind proceed := rfl

@[simp] theorem bind_tell (note : Note) (next : Dialogue Query Reply Note Result)
    (proceed : Result → Dialogue Query Reply Note Further) :
    (Dialogue.tell note next).bind proceed = .tell note (next.bind proceed) := rfl

@[simp] theorem pure_eq_done (result : Result) :
    (pure result : Dialogue Query Reply Note Result) = .done result := rfl

@[simp] theorem monadBind_eq_bind (dialogue : Dialogue Query Reply Note Result)
    (proceed : Result → Dialogue Query Reply Note Further) :
    dialogue >>= proceed = dialogue.bind proceed := rfl

@[simp] theorem run_done (respond : (query : Query) → State → Reply query × State)
    (result : Result) (state : State) :
    (Dialogue.done result : Dialogue Query Reply Note Result).run respond state =
      ⟨result, state, []⟩ := rfl

/-- A run of two dialogues in a row is the run of the second from where the
run of the first ended, behind the transcript of the first. -/
theorem run_bind (respond : (query : Query) → State → Reply query × State)
    (dialogue : Dialogue Query Reply Note Result)
    (proceed : Result → Dialogue Query Reply Note Further) (state : State) :
    (dialogue.bind proceed).run respond state =
      let first := dialogue.run respond state
      let second := (proceed first.result).run respond first.state
      { second with transcript := first.transcript ++ second.transcript } := by
  induction dialogue generalizing state with
  | done result => simp
  | ask query next hypothesis =>
    rw [bind_ask, run, run, hypothesis]
    rfl
  | tell note next hypothesis =>
    rw [bind_tell, run, run, hypothesis]
    rfl

/-- An interpreted dialogue leads to the same result and the same state as the
dialogue itself, where the reply to a query is the result of its translation. -/
theorem run_interpret {Inner : Type} {InnerReply : Inner → Type}
    (translate : (query : Query) → Dialogue Inner InnerReply Note (Reply query))
    (respond : (query : Inner) → State → InnerReply query × State)
    (dialogue : Dialogue Query Reply Note Result) (state : State) :
    let inner := (dialogue.interpret translate).run respond state
    let outer := dialogue.run (fun query state =>
      let translated := (translate query).run respond state
      (translated.result, translated.state)) state
    inner.result = outer.result ∧ inner.state = outer.state := by
  induction dialogue generalizing state with
  | done result => exact ⟨rfl, rfl⟩
  | ask query next hypothesis =>
    rw [interpret, run_bind]
    exact hypothesis _ _
  | tell note next hypothesis => exact hypothesis state

end Dialogue

end Pacing
