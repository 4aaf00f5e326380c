import Pacing.Dialogue

/-!
# Interleavings

Several parties, each in a dialogue of its own, whose collaborators share one
state.  A party moves by one event at a time, and between two events of one
party any other may move, or the state may change from outside.  An order of
moves decides a run: its parties, its state and the history of all that has
happened, the changes from outside included.
-/

namespace Pacing

namespace Dialogue

variable {Query : Type} {Reply : Query → Type} {Note Result State : Type}

/-- The first event of a dialogue, with the dialogue and the state behind it;
a dialogue that is done has none. -/
def advance (respond : (query : Query) → State → Reply query × State) :
    Dialogue Query Reply Note Result → State →
      Option (Event Query Reply Note × Dialogue Query Reply Note Result × State)
  | .done _, _ => none
  | .ask query next, state =>
    let reply := respond query state
    some (.exchange query reply.1, next reply.1, reply.2)
  | .tell note next, state => some (.note note, next, state)

end Dialogue

/-- What happens next: an event of one party, or a change of the state that no
party makes. -/
inductive Move (Change : Type) where
  | party (index : Nat)
  | outside (change : Change)
  deriving DecidableEq, Repr

/-- What has happened: an event of one party, or a change that no party made. -/
inductive Occurrence (Query : Type) (Reply : Query → Type) (Note Change : Type) where
  | event (party : Nat) (event : Dialogue.Event Query Reply Note)
  | outside (change : Change)

/-- Parties in the midst of their dialogues, the state that they share, and
what has happened so far. -/
structure Interleaving (Query : Type) (Reply : Query → Type)
    (Note Result Change State : Type) where
  parties : List (Dialogue Query Reply Note Result)
  state : State
  /-- The occurrences so far, in their order. -/
  history : List (Occurrence Query Reply Note Change)

namespace Interleaving

variable {Query : Type} {Reply : Query → Type} {Note Result Change State : Type}

/-- The parties before the first move. -/
def starting (parties : List (Dialogue Query Reply Note Result)) (state : State) :
    Interleaving Query Reply Note Result Change State :=
  ⟨parties, state, []⟩

/-- An event of one party; replies may depend on the party that asks.  A party
that is done, or not there, changes nothing. -/
def advance (respond : Nat → (query : Query) → State → Reply query × State)
    (index : Nat) (interleaving : Interleaving Query Reply Note Result Change State) :
    Interleaving Query Reply Note Result Change State :=
  match interleaving.parties[index]? with
  | none => interleaving
  | some party =>
    match party.advance (respond index) interleaving.state with
    | none => interleaving
    | some (event, party, state) =>
      { parties := interleaving.parties.set index party
        state
        history := interleaving.history ++ [.event index event] }

def move (respond : Nat → (query : Query) → State → Reply query × State)
    (apply : Change → State → State)
    (interleaving : Interleaving Query Reply Note Result Change State) :
    Move Change → Interleaving Query Reply Note Result Change State
  | .party index => interleaving.advance respond index
  | .outside change =>
    { interleaving with
      state := apply change interleaving.state
      history := interleaving.history ++ [.outside change] }

/-- The run that makes the given moves in their order. -/
def run (respond : Nat → (query : Query) → State → Reply query × State)
    (apply : Change → State → State)
    (interleaving : Interleaving Query Reply Note Result Change State)
    (moves : List (Move Change)) : Interleaving Query Reply Note Result Change State :=
  moves.foldl (move respond apply) interleaving

/-- The result of a party, once it is done. -/
def result? (interleaving : Interleaving Query Reply Note Result Change State)
    (index : Nat) : Option Result :=
  match interleaving.parties[index]? with
  | some (.done result) => some result
  | _ => none

section

variable (respond : Nat → (query : Query) → State → Reply query × State)
  (apply : Change → State → State)
  (interleaving : Interleaving Query Reply Note Result Change State)

@[simp] theorem run_nil : interleaving.run respond apply [] = interleaving := rfl

@[simp] theorem run_cons (first : Move Change) (rest : List (Move Change)) :
    interleaving.run respond apply (first :: rest) =
      (interleaving.move respond apply first).run respond apply rest := rfl

end

end Interleaving

end Pacing
