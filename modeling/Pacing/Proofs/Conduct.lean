import Pacing.Proofs.Chronicle

/-!
# The conduct of parties at a scope

A description of parties by stages is kept by all of them if each party keeps it
with its own moves, where these may follow the history, and does not mind the
moves of the others.  Then every order of moves leads to a lawful history, and
what the store holds for the scope is what the history shows.
-/

namespace Pacing.Chronicle

open Handling
open Racing (History)

variable {World Result : Type} {key : ScopeKey} {initial : Option ScheduleRecord}
  {Plans : Nat → UInt64 → Int64 → Prop}
  {reply : Nat → (query : Query) → World → query.Reply × World}

/-- An event that may follow a history, with a store that shows it. -/
structure Recorded (key : ScopeKey) (initial : Option ScheduleRecord)
    (Plans : Nat → UInt64 → Int64 → Prop) (party : Nat) (history : History)
    (event : Event) (store : Store) : Prop where
  follows : Follows key initial Plans history (.event party event)
  shown : store.get? key = stored initial (history ++ [.event party event])

section Moves

variable {party : Nat} {history : History} {site behind : Site World} {event : Event}
  {remaining : Handling Result}

theorem recorded_of_elsewhere (elsewhere : concernsStore event = false)
    (shown : site.store.get? key = stored initial history) :
    Recorded key initial Plans party history event site.store := by
  refine ⟨.aside elsewhere, ?_⟩
  rw [shown, stored_concat_of_none]
  rw [grant?, written?_of_elsewhere elsewhere]
  rfl

theorem advance_aside {query : Query} {next : query.Reply → Handling Result}
    (elsewhere : query.concernsStore = false)
    (shown : site.store.get? key = stored initial history)
    (advanced : (Dialogue.ask query next).advance
        (Surroundings.faultless (reply party)).respond site =
      some (event, remaining, behind)) :
    event = .exchange query (reply party query site.world).1 ∧
      remaining = next (reply party query site.world).1 ∧
      Recorded key initial Plans party history event behind.store := by
  obtain ⟨rfl, rfl, rfl⟩ := Dialogue.advance_ask advanced
  rw [Surroundings.faultless_aside _ elsewhere]
  exact ⟨rfl, rfl, recorded_of_elsewhere elsewhere shown⟩

theorem advance_note {note : Note} {next : Handling Result}
    (shown : site.store.get? key = stored initial history)
    (advanced : (Dialogue.tell note next).advance
        (Surroundings.faultless (reply party)).respond site =
      some (event, remaining, behind)) :
    event = .note note ∧ remaining = next ∧
      Recorded key initial Plans party history event behind.store := by
  obtain ⟨rfl, rfl, rfl⟩ := Dialogue.advance_tell advanced
  exact ⟨rfl, rfl, recorded_of_elsewhere rfl shown⟩

theorem advance_read {next : Except StoreError (Option ScheduleRecord) → Handling Result}
    (shown : site.store.get? key = stored initial history)
    (advanced : (Dialogue.ask (.read key) next).advance
        (Surroundings.faultless (reply party)).respond site =
      some (event, remaining, behind)) :
    event = .exchange (.read key) (.ok (stored initial history)) ∧
      remaining = next (.ok (stored initial history)) ∧
      Recorded key initial Plans party history event behind.store ∧
      Holds key initial party (stored initial history)
        (history ++ [.event party event]) := by
  obtain ⟨rfl, rfl, rfl⟩ := Dialogue.advance_ask advanced
  rw [Surroundings.faultless_read, shown]
  refine ⟨rfl, rfl, ⟨.read party, ?_⟩, history, [], rfl, rfl, ?_⟩
  · rw [stored_concat_of_none rfl]
    exact shown
  · intro event happened
    cases happened

/-- The write of a party that holds what it has read is granted or lost. -/
theorem advance_proceed {previous : Option ScheduleRecord} {threshold : UInt64}
    {now : Int64} (holds : Holds key initial party previous history)
    (plans : Plans party threshold now)
    (first : ∀ grant ∈ grants history, grant.party ≠ party)
    (shown : site.store.get? key = stored initial history)
    {settle : Except SchedulerError Decision → Handling Result}
    (advanced : ((proceed key threshold now previous).bind settle).advance
        (Surroundings.faultless (reply party)).respond site =
      some (event, remaining, behind)) :
    ∃ written, event = Retrying.writeCall key threshold now previous written ∧
      remaining =
        (conclude key now (plan previous threshold now) previous written).bind settle ∧
      Recorded key initial Plans party history event behind.store ∧
      (written = .ok () ∨ ∃ rejection, written = .error rejection ∧ rejection.Conflict) := by
  obtain ⟨written, site', advance, answers⟩ := Surroundings.faultless_proceed
    (reply party) key threshold now previous site
  obtain ⟨rfl, rfl, rfl⟩ : event = _ ∧ remaining = _ ∧ behind = _ := by
    have same := advanced.symm.trans (Dialogue.advance_bind advance settle)
    simpa using same
  refine ⟨written, rfl, rfl, ?_⟩
  generalize behind.store = store at answers
  cases answers with
  | granted unchanged =>
      rw [shown] at unchanged
      refine ⟨⟨.granted holds plans first unchanged, ?_⟩, .inl rfl⟩
      rw [Store.get?_put_self, stored_concat_of_some (grant?_writeCall_ok ..)]
  | lost conflict changed =>
      rw [shown] at changed
      refine ⟨⟨.lost holds conflict changed, ?_⟩, .inr ⟨_, rfl, conflict⟩⟩
      rw [shown, stored_concat_of_none (grant?_writeCall_error ..)]

end Moves

/-- An attempt takes three events at most: its read, its write and its note. -/
theorem within_attempt (key : ScopeKey) (threshold : UInt64) (now : Int64) :
    (attempt key threshold now).Within 3 := by
  have concluded : ∀ plannedAt previous written,
      (conclude key now plannedAt previous written).Within 1 := by
    intro plannedAt previous written
    unfold conclude
    cases outcomeOf written with
    | error error => exact .done _
    | ok outcome => exact .tell (.done _)
  rw [attempt_eq]
  refine .ask fun answer => ?_
  cases answer with
  | error error => exact .done _
  | ok previous =>
      cases previous with
      | none => exact .ask fun written => concluded ..
      | some record => exact .ask fun written => concluded ..

/-- What describes a party in terms of the history so far, where each party keeps
to the description of it, whatever the others do. -/
structure Conduct (key : ScopeKey) (initial : Option ScheduleRecord)
    (Plans : Nat → UInt64 → Int64 → Prop)
    (reply : Nat → (query : Query) → World → query.Reply × World)
    (Stage : Nat → History → Handling Result → Prop) : Prop where
  move : ∀ {party : Nat} {history : History} {dialogue remaining : Handling Result}
    {site behind : Site World} {event : Event}, Stage party history dialogue →
    site.store.get? key = stored initial history →
    dialogue.advance (Surroundings.faultless (reply party)).respond site =
      some (event, remaining, behind) →
    Recorded key initial Plans party history event behind.store ∧
      Stage party (history ++ [.event party event]) remaining
  stand : ∀ {party other : Nat} {history : History} {dialogue : Handling Result}
    {event : Event}, other ≠ party → Stage party history dialogue →
    Stage party (history ++ [.event other event]) dialogue

/-- Parties in their stages behind a lawful history that the store shows. -/
structure Proper (key : ScopeKey) (initial : Option ScheduleRecord)
    (Plans : Nat → UInt64 → Int64 → Prop)
    (Stage : Nat → History → Handling Result → Prop)
    (interleaving : Interleaving Query Query.Reply Note Result Int64 (Site World)) :
    Prop where
  lawful : Lawful key initial Plans interleaving.history
  shown : interleaving.state.store.get? key = stored initial interleaving.history
  stages : ∀ (party : Nat) (dialogue : Handling Result),
    interleaving.parties[party]? = some dialogue →
      Stage party interleaving.history dialogue

variable {Stage : Nat → History → Handling Result → Prop}
  {interleaving : Interleaving Query Query.Reply Note Result Int64 (Site World)}

theorem Conduct.proper_advance (conduct : Conduct key initial Plans reply Stage)
    (proper : Proper key initial Plans Stage interleaving) (mover : Nat) :
    Proper key initial Plans Stage
      (interleaving.advance
        (fun party => (Surroundings.faultless (reply party)).respond) mover) := by
  rcases interleaving.advance_cases
      (fun party => (Surroundings.faultless (reply party)).respond) mover with
    unchanged | ⟨dialogue, event, remaining, behind, present, advanced, outcome⟩
  · rw [unchanged]
    exact proper
  · rw [outcome]
    obtain ⟨recorded, stage⟩ :=
      conduct.move (proper.stages mover dialogue present) proper.shown advanced
    refine ⟨proper.lawful.concat recorded.follows, recorded.shown, ?_⟩
    intro party other isThere
    by_cases own : mover = party
    · subst own
      obtain ⟨inside, -⟩ := List.getElem?_eq_some_iff.mp present
      rw [List.getElem?_set_self inside] at isThere
      cases isThere
      exact stage
    · rw [List.getElem?_set_ne own] at isThere
      exact conduct.stand own (proper.stages party other isThere)

theorem Conduct.proper_run (conduct : Conduct key initial Plans reply Stage)
    (proper : Proper key initial Plans Stage interleaving) (order : List Nat) :
    Proper key initial Plans Stage
      (interleaving.run
        (fun party => (Surroundings.faultless (reply party)).respond) Site.reap
        (order.map Move.party)) := by
  induction order generalizing interleaving with
  | nil => exact proper
  | cons mover order induction =>
      rw [List.map_cons, Interleaving.run_cons]
      exact induction (conduct.proper_advance proper mover)

theorem proper_starting {parties : List (Handling Result)} {site : Site World}
    (stages : ∀ (party : Nat) (dialogue : Handling Result),
      parties[party]? = some dialogue → Stage party [] dialogue) :
    Proper key (site.store.get? key) Plans Stage (.starting parties site) :=
  ⟨lawful_nil, rfl, stages⟩

end Pacing.Chronicle
