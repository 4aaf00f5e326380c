import Pacing.Dialogue

/-!
# Possible transcripts

A dialogue yields a transcript and a result when some replies lead it there.
Every run of a dialogue does so, whoever replies and whatever state the replies
depend on; what holds of all that a dialogue yields holds of all of its runs.
-/

namespace Pacing.Dialogue

variable {Query : Type} {Reply : Query → Type} {Note Result Further State : Type}

inductive Yields : Dialogue Query Reply Note Result →
    List (Event Query Reply Note) → Result → Prop where
  | done (result : Result) : Yields (.done result) [] result
  | ask {query : Query} {next : Reply query → Dialogue Query Reply Note Result}
      {transcript : List (Event Query Reply Note)} {result : Result}
      (reply : Reply query) (rest : Yields (next reply) transcript result) :
      Yields (.ask query next) (.exchange query reply :: transcript) result
  | tell {note : Note} {next : Dialogue Query Reply Note Result}
      {transcript : List (Event Query Reply Note)} {result : Result}
      (rest : Yields next transcript result) :
      Yields (.tell note next) (.note note :: transcript) result

theorem yields_run (respond : (query : Query) → State → Reply query × State)
    (dialogue : Dialogue Query Reply Note Result) (state : State) :
    dialogue.Yields (dialogue.run respond state).transcript
      (dialogue.run respond state).result := by
  induction dialogue generalizing state with
  | done result => exact .done result
  | ask query next hypothesis =>
      exact .ask (respond query state).1 (hypothesis _ (respond query state).2)
  | tell note next hypothesis => exact .tell (hypothesis state)

namespace Yields

variable {transcript : List (Event Query Reply Note)} {result : Result}

theorem done_cases {value : Result}
    (yields : (Dialogue.done value : Dialogue Query Reply Note Result).Yields
      transcript result) :
    transcript = [] ∧ result = value := by
  cases yields
  exact ⟨rfl, rfl⟩

theorem ask_cases {query : Query}
    {next : Reply query → Dialogue Query Reply Note Result}
    (yields : (Dialogue.ask query next).Yields transcript result) :
    ∃ reply rest, transcript = .exchange query reply :: rest ∧
      (next reply).Yields rest result := by
  cases yields with
  | ask reply rest => exact ⟨reply, _, rfl, rest⟩

theorem tell_cases {note : Note} {next : Dialogue Query Reply Note Result}
    (yields : (Dialogue.tell note next).Yields transcript result) :
    ∃ rest, transcript = .note note :: rest ∧ next.Yields rest result := by
  cases yields with
  | tell rest => exact ⟨_, rfl, rest⟩

/-- What two dialogues in a row yield is what the first one yields, before
what the second one yields from its result. -/
theorem bind_cases {dialogue : Dialogue Query Reply Note Result}
    {proceed : Result → Dialogue Query Reply Note Further} {result : Further}
    (yields : (dialogue.bind proceed).Yields transcript result) :
    ∃ earlier value later, transcript = earlier ++ later ∧
      dialogue.Yields earlier value ∧ (proceed value).Yields later result := by
  induction dialogue generalizing transcript with
  | done value => exact ⟨[], value, transcript, rfl, .done value, yields⟩
  | ask query next hypothesis =>
      obtain ⟨reply, rest, rfl, behind⟩ := yields.ask_cases
      obtain ⟨earlier, value, later, rfl, first, second⟩ := hypothesis reply behind
      exact ⟨_ :: earlier, value, later, rfl, .ask reply first, second⟩
  | tell note next hypothesis =>
      obtain ⟨rest, rfl, behind⟩ := yields.tell_cases
      obtain ⟨earlier, value, later, rfl, first, second⟩ := hypothesis behind
      exact ⟨_ :: earlier, value, later, rfl, .tell first, second⟩

end Yields

end Pacing.Dialogue
