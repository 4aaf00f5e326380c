import Pacing.Proofs.Reordering

/-!
# What the key of a scope tells

A key is an account and a region with a hyphen between them, and both of them may hold
hyphens of their own.  So a key can be split at each of its hyphens, and two scopes share
a key where the account of one goes on with what the region of the other begins with.
Accounts without hyphens cannot do so.

Scopes with keys of their own have nothing to do with each other: a message calls the
store about its own key, and what is seen of it is the same behind a message about
another key.
-/

namespace Pacing

namespace Handling

variable {Result : Type} {scope : Option ScopeKey}

theorem mem_effects_cons {effect : Effect} {event : Event} {rest : List Event} :
    effect ∈ effects (event :: rest) ↔ effect? event = some effect ∨ effect ∈ effects rest := by
  unfold effects
  cases seen : effect? event with
  | none => simp [seen]
  | some other =>
      rw [List.filterMap_cons_some seen, List.mem_cons, Option.some.injEq]
      exact or_congr_left eq_comm

/-- Where every query that matters is about a scope, so is every call of the store. -/
theorem Alike.about {dialogue other : Handling Result} (alike : Alike scope dialogue other)
    {transcript : List Event} {result : Result} (yields : dialogue.Yields transcript result)
    {call : StoreCall} {reply : call.Reply}
    (stored : .stored call reply ∈ effects transcript) : scope = some call.scope := by
  induction alike generalizing transcript with
  | done =>
      obtain ⟨rfl, -⟩ := yields.done_cases
      cases stored
  | tell rest induction =>
      obtain ⟨behind, rfl, later⟩ := yields.tell_cases
      rcases mem_effects_cons.mp stored with here | there
      · cases here
      · exact induction later there
  | @ask query next other matters rest induction =>
      obtain ⟨replied, behind, rfl, later⟩ := yields.ask_cases
      rcases mem_effects_cons.mp stored with here | there
      · cases query with
        | read key =>
            cases here
            exact matters
        | create record =>
            cases here
            exact matters
        | update key expected record =>
            cases here
            exact matters
        | _ => cases here
      · exact induction replied later there
  | draw rest induction =>
      obtain ⟨drawn, behind, rfl, later⟩ := yields.ask_cases
      rcases mem_effects_cons.mp stored with here | there
      · cases here
      · exact induction drawn drawn later there
  | sleep rest induction =>
      obtain ⟨awake, behind, rfl, later⟩ := yields.ask_cases
      rcases mem_effects_cons.mp stored with here | there
      · cases here
      · exact induction awake later there
  | record rest induction =>
      obtain ⟨replied, behind, rfl, later⟩ := yields.ask_cases
      rcases mem_effects_cons.mp stored with here | there
      · cases here
      · exact induction replied replied later there

end Handling

namespace Separation

open Handling

/-! ## Keys -/

/-- The text of an account and a region is split at a later hyphen: the other account
goes on with what the region begins with. -/
def Shifted (account region other elsewhere : String) : Prop :=
  ∃ middle, other = account ++ "-" ++ middle ∧ region = middle ++ "-" ++ elsewhere

/-- Two lists are split at the same hyphen, or one of them at a later one. -/
theorem append_hyphen_eq_iff (account region other elsewhere : List Char) :
    account ++ '-' :: region = other ++ '-' :: elsewhere ↔
      (account = other ∧ region = elsewhere) ∨
        (∃ middle, other = account ++ '-' :: middle ∧ region = middle ++ '-' :: elsewhere) ∨
        ∃ middle, account = other ++ '-' :: middle ∧ elsewhere = middle ++ '-' :: region := by
  constructor
  · intro same
    rcases List.append_eq_append_iff.mp same with ⟨extra, rfl, split⟩ | ⟨extra, rfl, split⟩
    · cases extra with
      | nil => exact .inl ⟨by simp, by simpa using split⟩
      | cons first middle =>
          obtain ⟨rfl, rfl⟩ := List.cons_eq_cons.mp split
          exact .inr (.inl ⟨middle, rfl, rfl⟩)
    · cases extra with
      | nil => exact .inl ⟨by simp, by simpa using split.symm⟩
      | cons first middle =>
          obtain ⟨rfl, rfl⟩ := List.cons_eq_cons.mp split
          exact .inr (.inr ⟨middle, rfl, rfl⟩)
  · rintro (⟨rfl, rfl⟩ | ⟨middle, rfl, rfl⟩ | ⟨middle, rfl, rfl⟩)
    · rfl
    · simp
    · simp

theorem shifted_iff_toList (account region other elsewhere : String) :
    Shifted account region other elsewhere ↔
      ∃ middle, other.toList = account.toList ++ '-' :: middle ∧
        region.toList = middle ++ '-' :: elsewhere.toList := by
  constructor
  · rintro ⟨middle, rfl, rfl⟩
    exact ⟨middle.toList, by simp, by simp⟩
  · rintro ⟨middle, isOther, isRegion⟩
    refine ⟨String.ofList middle, ?_, ?_⟩
    · apply String.toList_injective
      simp [isOther]
    · apply String.toList_injective
      simp [isRegion]

/-- A key is shared by equal scopes, and by scopes that are split at two of its
hyphens. -/
theorem joined_eq_iff (account region other elsewhere : String) :
    account ++ "-" ++ region = other ++ "-" ++ elsewhere ↔
      (account = other ∧ region = elsewhere) ∨
        Shifted account region other elsewhere ∨ Shifted other elsewhere account region := by
  rw [shifted_iff_toList, shifted_iff_toList, ← @String.toList_inj _ other,
    ← @String.toList_inj _ elsewhere, ← String.toList_inj]
  simpa using append_hyphen_eq_iff account.toList region.toList other.toList elsewhere.toList

/-- A later split needs a hyphen within an account. -/
theorem Shifted.hyphen_mem {account region other elsewhere : String}
    (shifted : Shifted account region other elsewhere) : '-' ∈ other.toList := by
  obtain ⟨middle, rfl, -⟩ := shifted
  simp

theorem ofNames_eq_ok {account region : String} {key : ScopeKey}
    (accepted : ScopeKey.ofNames account region = .ok key) :
    key = ⟨Text.trim account ++ "-" ++ Text.trim region⟩ := by
  unfold ScopeKey.ofNames at accepted
  split at accepted
  · cases accepted
  · split at accepted
    · cases accepted
    · cases accepted
      rfl

theorem key_eq_iff {account region other elsewhere : String} {key rekey : ScopeKey}
    (accepted : ScopeKey.ofNames account region = .ok key)
    (reaccepted : ScopeKey.ofNames other elsewhere = .ok rekey) :
    key = rekey ↔
      (Text.trim account = Text.trim other ∧ Text.trim region = Text.trim elsewhere) ∨
        Shifted (Text.trim account) (Text.trim region) (Text.trim other) (Text.trim elsewhere) ∨
        Shifted (Text.trim other) (Text.trim elsewhere) (Text.trim account)
          (Text.trim region) := by
  rw [ofNames_eq_ok accepted, ofNames_eq_ok reaccepted, ScopeKey.mk.injEq]
  exact joined_eq_iff _ _ _ _

/-! ## Messages about different keys -/

/-- Two messages about different keys.  The first one calls the store about its own key
only, leaves alone what is filed under the key of the second one, and nothing that is seen
of the second one depends on whether the first one came before it. -/
structure Apart {World : Type} (company : Company Store World) (terms : Terms)
    (message later : QueuedMessage) (key rekey : ScopeKey)
    (state : Circumstances Store World) : Prop where
  own : ∀ call reply, .stored call reply ∈
    effects ((handleQueued terms message).run company.respond state).transcript →
      call.scope = key
  kept : ((handleQueued terms message).run company.respond state).state.memory.get? rekey =
    state.memory.get? rekey
  undelayed : seen ((handleQueued terms later).run company.respond
      ((handleQueued terms message).run company.respond state).state) =
    seen ((handleQueued terms later).run company.respond state)

theorem apart_of_ne {World : Type} {company : Company Store World}
    (kept : company.store = Store.answer) (terms : Terms) {message later : QueuedMessage}
    {key rekey : ScopeKey} (about : scopeOf message = some key)
    (reabout : scopeOf later = some rekey) (different : key ≠ rekey)
    (state : Circumstances Store World) :
    Apart company terms message later key rekey state := by
  have untouched : ((handleQueued terms message).run company.respond state).state.memory.get?
      rekey = state.memory.get? rekey := by
    apply Reordering.get?_handled_of_ne kept
    rw [about]
    exact fun same => different (Option.some.inj same)
  constructor
  · intro call reply stored
    have alike := alike_handleQueued terms message
    rw [about] at alike
    have yields := Dialogue.yields_run company.respond (handleQueued terms message) state
    exact (Option.some.inj (alike.about yields stored)).symm
  · exact untouched
  · refine (Reordering.agree_of_same kept terms later ?_).seen
    intro scope isScope
    obtain rfl : rekey = scope := Option.some.inj (reabout.symm.trans isScope)
    exact untouched

/-- Two scopes share a key exactly if they are the same or if the key can be split into
either of them at different hyphens; where no account holds a hyphen they are the same.
Messages about scopes whose keys differ neither read nor write each other's records and
do not delay each other. -/
theorem scopes_apart {account region other elsewhere : String} {key rekey : ScopeKey}
    (accepted : ScopeKey.ofNames account region = .ok key)
    (reaccepted : ScopeKey.ofNames other elsewhere = .ok rekey) :
    (key = rekey ↔
      (Text.trim account = Text.trim other ∧ Text.trim region = Text.trim elsewhere) ∨
        Shifted (Text.trim account) (Text.trim region) (Text.trim other) (Text.trim elsewhere) ∨
        Shifted (Text.trim other) (Text.trim elsewhere) (Text.trim account)
          (Text.trim region)) ∧
    ('-' ∉ (Text.trim account).toList → '-' ∉ (Text.trim other).toList → key = rekey →
      Text.trim account = Text.trim other ∧ Text.trim region = Text.trim elsewhere) ∧
    (key ≠ rekey → ∀ (World : Type) (company : Company Store World),
      company.store = Store.answer → ∀ (terms : Terms) (message later : QueuedMessage)
        (state : Circumstances Store World),
      scopeOf message = some key → scopeOf later = some rekey →
        Apart company terms message later key rekey state) := by
  have shared := key_eq_iff accepted reaccepted
  refine ⟨shared, ?_, ?_⟩
  · intro plain replain same
    rcases shared.mp same with equal | shifted | shifted
    · exact equal
    · exact absurd shifted.hyphen_mem replain
    · exact absurd shifted.hyphen_mem plain
  · intro different World company kept terms message later state about reabout
    exact apart_of_ne kept terms about reabout different state

/-- Two accounts in one region, one after the other. -/
theorem accounts_apart :
    let first := QueuedMessage.ofRecord (Batches.requestRecord "1" "us-east-1" "first")
    let second := QueuedMessage.ofRecord (Batches.requestRecord "2-1" "us-east-1" "second")
    ScopeKey.ofNames "1" "us-east-1 " = .ok ⟨"1-us-east-1"⟩ ∧
    ScopeKey.ofNames " 2-1" "us-east-1" = .ok ⟨"2-1-us-east-1"⟩ ∧
    scopeOf first = some ⟨"1-us-east-1"⟩ ∧ scopeOf second = some ⟨"2-1-us-east-1"⟩ ∧
    Apart (Company.calm 1000) ⟨60, .standard, false⟩ first second ⟨"1-us-east-1"⟩
      ⟨"2-1-us-east-1"⟩ ⟨Store.empty, ()⟩ := by
  intro first second
  have accepted : ScopeKey.ofNames "1" "us-east-1 " = .ok ⟨"1-us-east-1"⟩ := by
    decide +kernel
  have reaccepted : ScopeKey.ofNames " 2-1" "us-east-1" = .ok ⟨"2-1-us-east-1"⟩ := by
    decide +kernel
  have about : scopeOf first = some ⟨"1-us-east-1"⟩ := by decide +kernel
  have reabout : scopeOf second = some ⟨"2-1-us-east-1"⟩ := by decide +kernel
  have apart := (scopes_apart accepted reaccepted).2.2 (by decide)
  exact ⟨accepted, reaccepted, about, reabout,
    apart Unit (Company.calm 1000) rfl ⟨60, .standard, false⟩ first second
      ⟨Store.empty, ()⟩ about reabout⟩

/-- A region that is cut short and an account that is longer by what was cut off make the
same key. -/
theorem key_of_two_scopes :
    ¬ ∀ (account region other elsewhere : String) (key : ScopeKey),
      ScopeKey.ofNames account region = .ok key → ScopeKey.ofNames other elsewhere = .ok key →
        Text.trim account = Text.trim other ∧ Text.trim region = Text.trim elsewhere := by
  intro injective
  have same := injective "111111111111" "us-east-1" "111111111111-us" "east-1"
    ⟨"111111111111-us-east-1"⟩ (by decide +kernel) (by decide +kernel)
  exact absurd same.1 (by decide +kernel)

end Separation

end Pacing
