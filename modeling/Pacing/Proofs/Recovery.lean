import Pacing.Proofs.Defects
import Pacing.Request

/-!
# Recoverable tokens

The token of a message can be recovered when the body of the message is an
object that names one, whatever else is wrong with it.  Reading a request finds
exactly this token: a request carries it, and so does a message that is none.
-/

namespace Pacing

/-- A member names a token: it is a text that is not blank, and the token is the
text without its blank ends. -/
def ContinuationToken.NamedBy (members : Json.Members) (name : String)
    (token : ContinuationToken) : Prop :=
  ∃ text, members.get? name = some (.string text) ∧ Text.isBlank text = false ∧
    token.text = Text.trim text

/-- A token is recoverable from a body under its present name, or under the
older one if there is none under the present name. -/
inductive Recoverable (body : String) (token : ContinuationToken) : Prop where
  | present {members : Json.Members} (readable : Json.read body = .ok (.object members))
      (named : token.NamedBy members "ContinuationToken")
  | older {members : Json.Members} (readable : Json.read body = .ok (.object members))
      (unnamed : ∀ other : ContinuationToken,
        ¬ other.NamedBy members "ContinuationToken")
      (named : token.NamedBy members "TaskToken")

namespace ContinuationToken

theorem firstOf_cons_iff (members : Json.Members) (name : String) (others : List String)
    (token : ContinuationToken) :
    firstOf members (name :: others) = some token ↔
      token.NamedBy members name ∨
        (∀ other : ContinuationToken, ¬ other.NamedBy members name) ∧
          firstOf members others = some token := by
  by_cases named : ∃ text, members.get? name = some (.string text) ∧
      Text.isBlank text = false
  · obtain ⟨text, found, filled⟩ := named
    have first : firstOf members (name :: others) = some ⟨Text.trim text⟩ := by
      rw [firstOf, found]
      exact if_neg (by rw [filled]; exact Bool.false_ne_true)
    rw [first]
    constructor
    · intro same
      cases same
      exact .inl ⟨text, found, filled, rfl⟩
    · rintro (⟨other, present, -, trimmed⟩ | ⟨unnamed, -⟩)
      · rw [found] at present
        cases present
        cases token
        exact congrArg some (congrArg mk trimmed.symm)
      · exact absurd ⟨text, found, filled, rfl⟩ (unnamed ⟨Text.trim text⟩)
  · have unnamed : ∀ other : ContinuationToken, ¬ other.NamedBy members name :=
      fun other ⟨text, found, filled, _⟩ => named ⟨text, found, filled⟩
    have passed : firstOf members (name :: others) = firstOf members others := by
      rw [firstOf]
      split
      · next text found =>
          split
          · rfl
          · next filled =>
              exact absurd ⟨text, found, Bool.eq_false_iff.mpr filled⟩ named
      · rfl
    rw [passed]
    constructor
    · intro later
      exact .inr ⟨unnamed, later⟩
    · rintro (here | ⟨-, later⟩)
      · exact absurd here (unnamed token)
      · exact later

theorem firstOf_tokenNames_iff (members : Json.Members) (token : ContinuationToken) :
    firstOf members Message.tokenNames = some token ↔
      token.NamedBy members "ContinuationToken" ∨
        (∀ other : ContinuationToken, ¬ other.NamedBy members "ContinuationToken") ∧
          token.NamedBy members "TaskToken" := by
  rw [Message.tokenNames, firstOf_cons_iff, firstOf_cons_iff]
  constructor
  · rintro (present | ⟨unnamed, older | ⟨-, nothing⟩⟩)
    · exact .inl present
    · exact .inr ⟨unnamed, older⟩
    · cases nothing
  · rintro (present | ⟨unnamed, older⟩)
    · exact .inl present
    · exact .inr ⟨unnamed, .inl older⟩

end ContinuationToken

/-- The recovered token is the one that reading the body and looking through its
members finds. -/
theorem recoverable_iff (body : String) (token : ContinuationToken) :
    Recoverable body token ↔
      (Json.read body).toOption.bind ContinuationToken.ofJson? = some token := by
  constructor
  · intro recoverable
    cases recoverable with
    | present readable named =>
        rw [readable]
        exact (ContinuationToken.firstOf_tokenNames_iff _ token).mpr (.inl named)
    | older readable unnamed named =>
        rw [readable]
        exact (ContinuationToken.firstOf_tokenNames_iff _ token).mpr
          (.inr ⟨unnamed, named⟩)
  · intro recovered
    cases readable : Json.read body with
    | error defect =>
        rw [readable] at recovered
        cases recovered
    | ok value =>
        rw [readable] at recovered
        cases value with
        | object members =>
            rcases (ContinuationToken.firstOf_tokenNames_iff members token).mp recovered
              with named | ⟨unnamed, named⟩
            · exact .present readable named
            · exact .older readable unnamed named
        | _ => cases recovered

example : Recoverable "\x7b\"TaskToken\":\" a\"\x7d" ⟨"a"⟩ := by
  rw [recoverable_iff]
  cbv

namespace Request

/-- The fields of a message give a request that carries the token of the
message. -/
theorem token_of_ofFields {value : Json} {observedAt : Int64} {request : Request}
    (accepted : ofFields value observedAt = .ok request) :
    ContinuationToken.ofJson? value = some request.token := by
  obtain ⟨message, -, afterMessage⟩ := ok_of_bind accepted
  obtain ⟨token, required, afterToken⟩ := ok_of_bind afterMessage
  obtain ⟨scope, -, afterScope⟩ := ok_of_bind afterToken
  obtain ⟨details, -, afterDetails⟩ := ok_of_bind afterScope
  cases afterDetails
  cases recovered : ContinuationToken.ofJson? value with
  | none =>
      rw [recovered] at required
      cases required
  | some other =>
      rw [recovered] at required
      cases required
      rfl

theorem read_cases (body : String) (observedAt : Int64) :
    (∃ request, read body observedAt = .ok request ∧
      ∀ token, Recoverable body token ↔ token = request.token) ∨
    ∃ malformed, read body observedAt = .error malformed ∧
      ∀ token, Recoverable body token ↔ malformed.token = some token := by
  unfold read
  cases readable : Json.read body with
  | error defect =>
      refine .inr ⟨_, rfl, fun token => ?_⟩
      rw [recoverable_iff, readable]
      exact Iff.rfl
  | ok value =>
      dsimp only
      unfold ofJson
      cases accepted : ofFields value observedAt with
      | error error =>
          refine .inr ⟨_, rfl, fun token => ?_⟩
          rw [recoverable_iff, readable]
          exact Iff.rfl
      | ok request =>
          refine .inl ⟨request, rfl, fun token => ?_⟩
          rw [recoverable_iff, readable]
          show ContinuationToken.ofJson? value = some token ↔ token = request.token
          rw [token_of_ofFields accepted, Option.some.injEq]
          exact eq_comm

end Request

end Pacing
