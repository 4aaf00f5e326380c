import Pacing.Interleaving

/-!
# Invariants of interleavings

A history only grows.  A property that holds at the start of an interleaving
and is kept by every move holds after every run, and a move may rely on
whatever is promised of the history up to and including it.
-/

namespace Pacing

namespace Dialogue

variable {Query : Type} {Reply : Query → Type} {Note Result State : Type}
  {respond : (query : Query) → State → Reply query × State}
  {event : Event Query Reply Note} {remaining : Dialogue Query Reply Note Result}
  {before behind : State}

theorem advance_ask {query : Query}
    {next : Reply query → Dialogue Query Reply Note Result}
    (advanced : (Dialogue.ask query next).advance respond before =
      some (event, remaining, behind)) :
    event = .exchange query (respond query before).1 ∧
      remaining = next (respond query before).1 ∧
      behind = (respond query before).2 := by
  cases advanced
  exact ⟨rfl, rfl, rfl⟩

theorem advance_tell {note : Note} {next : Dialogue Query Reply Note Result}
    (advanced : (Dialogue.tell note next).advance respond before =
      some (event, remaining, behind)) :
    event = .note note ∧ remaining = next ∧ behind = before := by
  cases advanced
  exact ⟨rfl, rfl, rfl⟩

theorem advance_bind {Further : Type} {dialogue : Dialogue Query Reply Note Result}
    (advanced : dialogue.advance respond before = some (event, remaining, behind))
    (proceed : Result → Dialogue Query Reply Note Further) :
    (dialogue.bind proceed).advance respond before =
      some (event, remaining.bind proceed, behind) := by
  cases dialogue with
  | done result => cases advanced
  | ask query next =>
      obtain ⟨rfl, rfl, rfl⟩ := advance_ask advanced
      rfl
  | tell note next =>
      obtain ⟨rfl, rfl, rfl⟩ := advance_tell advanced
      rfl

theorem run_of_advance {dialogue : Dialogue Query Reply Note Result}
    (advanced : dialogue.advance respond before = some (event, remaining, behind)) :
    (dialogue.run respond before).result = (remaining.run respond behind).result ∧
      (dialogue.run respond before).state = (remaining.run respond behind).state := by
  cases dialogue with
  | done result => cases advanced
  | ask query next =>
      obtain ⟨rfl, rfl, rfl⟩ := advance_ask advanced
      exact ⟨rfl, rfl⟩
  | tell note next =>
      obtain ⟨rfl, rfl, rfl⟩ := advance_tell advanced
      exact ⟨rfl, rfl⟩

theorem bind_done_right (dialogue : Dialogue Query Reply Note Result) :
    dialogue.bind .done = dialogue := by
  induction dialogue with
  | done result => rfl
  | ask query next hypothesis => simp [hypothesis]
  | tell note next hypothesis => simp [hypothesis]

/-- Nothing but notes is left before the result. -/
inductive Ends (result : Result) : Dialogue Query Reply Note Result → Prop where
  | done : Ends result (.done result)
  | tell {note : Note} {next : Dialogue Query Reply Note Result} (rest : Ends result next) :
      Ends result (.tell note next)

/-- A dialogue takes a number of events at most, whatever the replies are. -/
inductive Within : Nat → Dialogue Query Reply Note Result → Prop where
  | done {bound : Nat} (result : Result) : Within bound (.done result)
  | ask {bound : Nat} {query : Query}
      {next : Reply query → Dialogue Query Reply Note Result}
      (rest : ∀ reply, Within bound (next reply)) : Within (bound + 1) (.ask query next)
  | tell {bound : Nat} {note : Note} {next : Dialogue Query Reply Note Result}
      (rest : Within bound next) : Within (bound + 1) (.tell note next)

theorem Within.mono {dialogue : Dialogue Query Reply Note Result} {bound greater : Nat}
    (within : dialogue.Within bound) (enough : bound ≤ greater) :
    dialogue.Within greater := by
  induction within generalizing greater with
  | done result => exact .done result
  | ask rest hypothesis =>
      cases greater with
      | zero => exact absurd enough (Nat.not_succ_le_zero _)
      | succ greater =>
          exact .ask fun reply => hypothesis reply (Nat.le_of_succ_le_succ enough)
  | tell rest hypothesis =>
      cases greater with
      | zero => exact absurd enough (Nat.not_succ_le_zero _)
      | succ greater => exact .tell (hypothesis (Nat.le_of_succ_le_succ enough))

theorem Within.bind {Further : Type} {dialogue : Dialogue Query Reply Note Result}
    {proceed : Result → Dialogue Query Reply Note Further} {first second : Nat}
    (within : dialogue.Within first) (onward : ∀ result, (proceed result).Within second) :
    (dialogue.bind proceed).Within (second + first) := by
  induction within with
  | done result => exact (onward result).mono (Nat.le_add_right second _)
  | ask rest hypothesis => exact .ask hypothesis
  | tell rest hypothesis => exact .tell hypothesis

end Dialogue

namespace Interleaving

variable {Query : Type} {Reply : Query → Type} {Note Result Change State : Type}

/-- A move of a party either changes nothing or is one event of its dialogue. -/
theorem advance_cases
    (respond : Nat → (query : Query) → State → Reply query × State) (index : Nat)
    (interleaving : Interleaving Query Reply Note Result Change State) :
    interleaving.advance respond index = interleaving ∨
      ∃ party event remaining state,
        interleaving.parties[index]? = some party ∧
        party.advance (respond index) interleaving.state =
          some (event, remaining, state) ∧
        interleaving.advance respond index =
          { parties := interleaving.parties.set index remaining
            state
            history := interleaving.history ++ [.event index event] } := by
  cases present : interleaving.parties[index]? with
  | none => exact .inl (by simp only [advance, present])
  | some party =>
      cases advanced : party.advance (respond index) interleaving.state with
      | none => exact .inl (by simp only [advance, present, advanced])
      | some outcome =>
          obtain ⟨event, remaining, state⟩ := outcome
          refine .inr ⟨party, event, remaining, state, rfl, advanced, ?_⟩
          simp only [advance, present, advanced]

variable (respond : Nat → (query : Query) → State → Reply query × State)
  (apply : Change → State → State)

theorem history_move
    (interleaving : Interleaving Query Reply Note Result Change State)
    (next : Move Change) :
    ∃ later, (interleaving.move respond apply next).history =
      interleaving.history ++ later := by
  cases next with
  | party index =>
      rcases advance_cases respond index interleaving with
        unchanged | ⟨_, event, _, _, _, _, advanced⟩
      · exact ⟨[], by simp [move, unchanged]⟩
      · exact ⟨[.event index event], by simp [move, advanced]⟩
  | outside change => exact ⟨[.outside change], rfl⟩

theorem history_run
    (interleaving : Interleaving Query Reply Note Result Change State)
    (moves : List (Move Change)) :
    ∃ later, (interleaving.run respond apply moves).history =
      interleaving.history ++ later := by
  induction moves generalizing interleaving with
  | nil => exact ⟨[], by simp⟩
  | cons next moves induction =>
      obtain ⟨first, firstGrows⟩ := history_move respond apply interleaving next
      obtain ⟨rest, restGrows⟩ := induction (interleaving.move respond apply next)
      refine ⟨first ++ rest, ?_⟩
      rw [run_cons, restGrows, firstGrows, List.append_assoc]

/-- What every move keeps holds after a run, where a move may use a condition
on the history behind it, if shorter histories meet the condition as well. -/
theorem run_preserves
    (condition : List (Occurrence Query Reply Note Change) → Prop)
    {invariant : Interleaving Query Reply Note Result Change State → Prop}
    (shorter : ∀ earlier later, condition (earlier ++ later) → condition earlier)
    (kept : ∀ interleaving next,
      condition (interleaving.move respond apply next).history →
        invariant interleaving →
          invariant (interleaving.move respond apply next))
    {interleaving : Interleaving Query Reply Note Result Change State}
    (start : invariant interleaving) (moves : List (Move Change))
    (met : condition (interleaving.run respond apply moves).history) :
    invariant (interleaving.run respond apply moves) := by
  induction moves generalizing interleaving with
  | nil => exact start
  | cons next moves induction =>
      rw [run_cons] at met ⊢
      have metAtNext :
          condition (interleaving.move respond apply next).history := by
        obtain ⟨later, grows⟩ := history_run respond apply
          (interleaving.move respond apply next) moves
        rw [grows] at met
        exact shorter _ _ met
      exact induction (kept interleaving next metAtNext start) met

theorem result?_eq_some_iff
    {interleaving : Interleaving Query Reply Note Result Change State} {index : Nat}
    {result : Result} : interleaving.result? index = some result ↔
      interleaving.parties[index]? = some (.done result) := by
  unfold result?
  split
  · next ended present => simp [present]
  · next notDone =>
      constructor
      · intro impossible
        cases impossible
      · intro present
        exact absurd present (notDone result)

theorem parties_advance_of_ne {mover index : Nat} (different : mover ≠ index)
    (interleaving : Interleaving Query Reply Note Result Change State) :
    (interleaving.advance respond mover).parties[index]? =
      interleaving.parties[index]? := by
  rcases advance_cases respond mover interleaving with
    unchanged | ⟨_, _, _, _, _, _, outcome⟩
  · rw [unchanged]
  · rw [outcome]
    exact List.getElem?_set_ne different

theorem parties_advance_self {index : Nat} {party remaining : Dialogue Query Reply Note Result}
    {event : Dialogue.Event Query Reply Note} {behind : State}
    {interleaving : Interleaving Query Reply Note Result Change State}
    (present : interleaving.parties[index]? = some party)
    (advanced : party.advance (respond index) interleaving.state =
      some (event, remaining, behind)) :
    (interleaving.advance respond index).parties[index]? = some remaining := by
  obtain ⟨inside, -⟩ := List.getElem?_eq_some_iff.mp present
  simp only [advance, present, advanced]
  exact List.getElem?_set_self inside

/-- A move of a party takes one event off what is left of it, if there is any. -/
theorem within_advance {index bound : Nat} {party : Dialogue Query Reply Note Result}
    (interleaving : Interleaving Query Reply Note Result Change State)
    (present : interleaving.parties[index]? = some party) (within : party.Within bound) :
    ∃ remaining, (interleaving.advance respond index).parties[index]? = some remaining ∧
      remaining.Within (bound - 1) := by
  cases within with
  | done result =>
      refine ⟨_, ?_, .done result⟩
      simp only [advance, present, Dialogue.advance]
  | ask rest =>
      exact ⟨_, parties_advance_self respond present rfl, rest _⟩
  | tell rest =>
      exact ⟨_, parties_advance_self respond present rfl, rest⟩

/-- A party that takes a number of events at most is done behind so many moves of
its own, whatever the others do in between. -/
theorem result?_of_within {index bound : Nat}
    {party : Dialogue Query Reply Note Result} (within : party.Within bound)
    {interleaving : Interleaving Query Reply Note Result Change State}
    (present : interleaving.parties[index]? = some party) {order : List Nat}
    (enough : bound ≤ order.count index) :
    ∃ result, (interleaving.run respond apply (order.map Move.party)).result? index =
      some result := by
  induction order generalizing interleaving party bound with
  | nil =>
      obtain rfl : bound = 0 := by simpa using enough
      cases within with
      | done result =>
          exact ⟨result, result?_eq_some_iff.mpr present⟩
  | cons mover order induction =>
      rw [List.map_cons, run_cons, move]
      by_cases own : mover = index
      · subst own
        rw [List.count_cons_self] at enough
        obtain ⟨remaining, left, shorter⟩ :=
          within_advance respond interleaving present within
        exact induction shorter left (by omega)
      · rw [List.count_cons_of_ne own] at enough
        rw [← parties_advance_of_ne respond own] at present
        exact induction within present enough

end Interleaving

end Pacing
