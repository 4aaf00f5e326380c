import Mathlib.Data.List.FinRange
import Mathlib.Data.List.Perm.Basic
import Mathlib.Data.List.Sort
import Pacing.Proofs.Batches
import Pacing.Proofs.Indifference

/-!
# Scopes do not interfere

With a store in memory, the handling of a message reads and writes nothing but what
is filed under its own scope.  So what a batch leaves under a scope is decided by its
messages about this scope alone.  In a reordering that keeps these in their order,
each message is handled behind the same messages about its scope as before, and
finds what it found before.
-/

namespace Pacing.Reordering

open Batches Handling

/-- The requests in two records are about the same scope. -/
def SameScope (record other : Json) : Prop :=
  ∃ key, scopeOf (QueuedMessage.ofRecord record) = some key ∧
    scopeOf (QueuedMessage.ofRecord other) = some key

/-- An order in which to take the records of a batch: each of them once, and those
about the same scope one after the other as before. -/
structure Reorders (records : List Json) (order : List (Fin records.length)) : Prop where
  complete : order.Perm (List.finRange records.length)
  ordered : order.Pairwise fun first second =>
    SameScope (records.get first) (records.get second) → first < second

/-! ## Positions -/

section Positions

variable {count : Nat} {chosen : Fin count → Bool} {order : List (Fin count)}

theorem filter_order (complete : order.Perm (List.finRange count))
    (ordered : order.Pairwise fun first second =>
      chosen first = true → chosen second = true → first < second) :
    order.filter chosen = (List.finRange count).filter chosen := by
  have rising : (order.filter chosen).Pairwise (· < ·) := List.pairwise_filter.mpr ordered
  apply List.Perm.eq_of_pairwise _ rising
  · exact (List.pairwise_lt_finRange count).filter chosen
  · exact complete.filter chosen
  · intro first second _ _ before behind
    exact absurd before behind.asymm

theorem filter_eq_around {position : Fin count} (isChosen : chosen position = true)
    {index : Nat} (found : order[index]? = some position) :
    order.filter chosen = (order.take index).filter chosen ++
      position :: (order.drop (index + 1)).filter chosen := by
  obtain ⟨inside, rfl⟩ := List.getElem?_eq_some_iff.mp found
  rw [← List.filter_cons_of_pos isChosen, ← List.filter_append,
    ← List.drop_eq_getElem_cons inside, List.take_append_drop]

/-- A chosen position has the same chosen positions before it as in their natural
order. -/
theorem filter_take (complete : order.Perm (List.finRange count))
    (ordered : order.Pairwise fun first second =>
      chosen first = true → chosen second = true → first < second)
    {position : Fin count} (isChosen : chosen position = true)
    {index : Nat} (found : order[index]? = some position) :
    (order.take index).filter chosen =
      ((List.finRange count).take position).filter chosen := by
  have natural : (List.finRange count)[position.val]? = some position := by simp
  have same := filter_order complete ordered
  have unique := (complete.nodup_iff.mpr (List.nodup_finRange count)).filter chosen
  rw [filter_eq_around isChosen found] at same unique
  rw [filter_eq_around isChosen natural] at same
  obtain ⟨apart, -⟩ := List.nodup_cons.mp (List.nodup_middle.mp unique)
  rw [List.mem_append, not_or] at apart
  exact ((List.append_cons_inj_of_notMem apart.1 apart.2).mp same).1

end Positions

/-! ## What is filed under a scope -/

def isAbout (key : ScopeKey) (message : QueuedMessage) : Bool :=
  scopeOf message = some key

section Views

variable {World : Type} {company : Company Store World} (kept : company.store = Store.answer)
  (terms : Terms)

include kept

/-- The handling of a message leaves alone what is filed under other scopes. -/
theorem get?_handled_of_ne {message : QueuedMessage} {key : ScopeKey}
    (elsewhere : scopeOf message ≠ some key) (state : Circumstances Store World) :
    ((handleQueued terms message).run company.respond state).state.memory.get? key =
      state.memory.get? key := by
  have respects : Respects company.store (scopeOf message) fun store other =>
      store = other ∧ store.get? key = state.memory.get? key := by
    rintro call store _ about ⟨rfl, same⟩
    have apart : call.scope ≠ key := by
      rintro rfl
      exact elsewhere about
    rw [kept]
    exact ⟨rfl, rfl, (Store.get?_answer_of_ne call store apart).trans same⟩
  exact ((alike_handleQueued terms message).agree respects ⟨rfl, rfl⟩).memory.2

/-- Two stores that hold the same under the scope of a message show the same of its
handling, and hold the same there behind it. -/
theorem agree_of_same (message : QueuedMessage) {state other : Circumstances Store World}
    (same : ∀ key, scopeOf message = some key →
      state.memory.get? key = other.memory.get? key) :
    Agree (fun store others => ∀ key, scopeOf message = some key →
        store.get? key = others.get? key)
      ((handleQueued terms message).run company.respond state)
      ((handleQueued terms message).run company.respond other) := by
  have respects : Respects company.store (scopeOf message) fun store others =>
      ∀ key, scopeOf message = some key → store.get? key = others.get? key := by
    intro call store others about same
    obtain ⟨reply, behind⟩ := Store.answer_of_same (same call.scope about)
    rw [kept]
    refine ⟨reply, ?_⟩
    intro key isScope
    cases about.symm.trans isScope
    exact behind
  exact (alike_handleQueued terms message).agree respects same

/-- What is filed under a scope behind some messages is decided by those of them that
are about this scope. -/
theorem get?_stateBehind_filter (key : ScopeKey) (messages : List QueuedMessage)
    {state other : Circumstances Store World}
    (same : state.memory.get? key = other.memory.get? key) :
    (stateBehind company.respond terms messages state).memory.get? key =
      (stateBehind company.respond terms
        (messages.filter (isAbout key)) other).memory.get? key := by
  induction messages generalizing state other with
  | nil => exact same
  | cons message messages induction =>
      by_cases about : scopeOf message = some key
      · rw [List.filter_cons_of_pos (by simpa [isAbout] using about)]
        apply induction
        refine (agree_of_same kept terms message ?_).memory key about
        intro scope isScope
        cases about.symm.trans isScope
        exact same
      · rw [List.filter_cons_of_neg (by simpa [isAbout] using about)]
        apply induction
        exact (get?_handled_of_ne kept terms about state).trans same

end Views

/-! ## Batches -/

section Batch

variable {records : List Json} {order : List (Fin records.length)}

def messageAt (records : List Json) (position : Fin records.length) : QueuedMessage :=
  QueuedMessage.ofRecord (records.get position)

theorem map_messageAt (records : List Json) :
    (List.finRange records.length).map (messageAt records) =
      records.map QueuedMessage.ofRecord := by
  conv_rhs => rw [← List.map_get_finRange records, List.map_map]
  rfl

theorem messages_reordered (order : List (Fin records.length)) :
    (order.map records.get).map QueuedMessage.ofRecord = order.map (messageAt records) :=
  List.map_map

theorem Reorders.ordered_about (reorders : Reorders records order) (key : ScopeKey) :
    order.Pairwise fun first second => isAbout key (messageAt records first) = true →
      isAbout key (messageAt records second) = true → first < second := by
  apply reorders.ordered.imp
  intro first second ordered isFirst isSecond
  exact ordered ⟨key, of_decide_eq_true isFirst, of_decide_eq_true isSecond⟩

theorem Reorders.natural (records : List Json) :
    Reorders records (List.finRange records.length) := by
  constructor
  · exact List.Perm.refl _
  · apply (List.pairwise_lt_finRange _).imp
    intro first second rising _
    exact rising

variable {World : Type} {company : Company Store World} (kept : company.store = Store.answer)
  (terms : Terms) {state other : Circumstances Store World}

include kept

theorem get?_stateBehind_positions {positions others : List (Fin records.length)}
    {key : ScopeKey}
    (same : positions.filter (isAbout key ∘ messageAt records) =
      others.filter (isAbout key ∘ messageAt records))
    (start : state.memory.get? key = other.memory.get? key) :
    (stateBehind company.respond terms (positions.map (messageAt records))
        state).memory.get? key =
      (stateBehind company.respond terms (others.map (messageAt records))
        other).memory.get? key := by
  rw [get?_stateBehind_filter kept terms key _ rfl, List.filter_map]
  rw [get?_stateBehind_filter kept terms key (others.map _) start.symm, List.filter_map]
  rw [same]

theorem seen_reordered (reorders : Reorders records order) (same : state.memory = other.memory)
    {index : Nat} {position : Fin records.length} (found : order[index]? = some position) :
    seen ((handleQueued terms (messageAt records position)).run company.respond
        (stateBehind company.respond terms ((order.take index).map (messageAt records)) other)) =
      seen ((handleQueued terms (messageAt records position)).run company.respond
        (stateBehind company.respond terms
          (((List.finRange records.length).take position).map (messageAt records)) state)) := by
  apply (agree_of_same kept terms (messageAt records position) _).seen
  intro key isScope
  apply get?_stateBehind_positions kept terms
  · apply filter_take reorders.complete (reorders.ordered_about key) _ found
    exact decide_eq_true isScope
  · rw [same]

theorem seen_handlings (reorders : Reorders records order) (same : state.memory = other.memory) :
    let handled := handlings company.respond terms
      (records.map QueuedMessage.ofRecord) state
    let rehandled := handlings company.respond terms
      ((order.map records.get).map QueuedMessage.ofRecord) other
    (rehandled.map fun run => some (seen run)) =
      order.map fun position => handled[position.val]?.map seen := by
  rw [messages_reordered, ← map_messageAt]
  apply List.ext_getElem?
  intro index
  simp only [List.getElem?_map, getElem?_handlings]
  cases found : order[index]? with
  | none => rfl
  | some position =>
      have natural : (List.finRange records.length)[position.val]? = some position := by simp
      have again := seen_reordered kept terms reorders same found
      simp only [natural, Option.map_some, ← List.map_take, again]

/-- What is seen of the records is the same but for the order. -/
theorem perm_seen (reorders : Reorders records order) (same : state.memory = other.memory) :
    let handled := handlings company.respond terms
      (records.map QueuedMessage.ofRecord) state
    let rehandled := handlings company.respond terms
      ((order.map records.get).map QueuedMessage.ofRecord) other
    (rehandled.map seen).Perm (handled.map seen) := by
  intro handled rehandled
  have again := seen_handlings kept terms reorders same
  -- In their natural order, too, the records are seen position by position.
  have own := seen_handlings kept terms (.natural records) (rfl : state.memory = state.memory)
  rw [List.map_get_finRange] at own
  apply (List.map_perm_map_iff (Option.some_injective _)).mp
  rw [List.map_map, List.map_map]
  exact again ▸ own ▸ reorders.complete.map _

theorem tally_reordered (reorders : Reorders records order)
    (same : state.memory = other.memory) :
    let handled := handlings company.respond terms
      (records.map QueuedMessage.ofRecord) state
    let rehandled := handlings company.respond terms
      ((order.map records.get).map QueuedMessage.ofRecord) other
    Tally.ofDispositions (rehandled.map Dialogue.Run.result) =
      Tally.ofDispositions (handled.map Dialogue.Run.result) := by
  intro handled rehandled
  have shown : (rehandled.map seen).Perm (handled.map seen) := perm_seen kept terms reorders same
  have results := shown.map Prod.fst
  rw [List.map_map, List.map_map] at results
  exact ofDispositions_of_perm results

theorem get?_reordered (reorders : Reorders records order)
    (same : state.memory = other.memory) (key : ScopeKey) :
    (stateBehind company.respond terms
        ((order.map records.get).map QueuedMessage.ofRecord) other).memory.get? key =
      (stateBehind company.respond terms
        (records.map QueuedMessage.ofRecord) state).memory.get? key := by
  rw [messages_reordered, ← map_messageAt]
  apply get?_stateBehind_positions kept terms
  · exact filter_order reorders.complete (reorders.ordered_about key)
  · rw [same]

end Batch

/-- With a store in memory, a batch is handled in another order that keeps the records
about the same scope in theirs.  Then each record ends as it did, with the same calls of
the store, value of a delay and call of the notifier; the counts are the same; and the
store ends up with the same records. -/
theorem reordering_unobservable {World : Type} (company : Company Store World)
    (kept : company.store = Store.answer) (terms : Terms) (store : Store)
    (world other : World) (records : List Json) (order : List (Fin records.length))
    (reorders : Reorders records order) (event reordered : Json)
    (batch : IsBatch records event) (rebatch : IsBatch (order.map records.get) reordered) :
    let run := (handleEvent terms event).run company.respond ⟨store, world⟩
    let rerun := (handleEvent terms reordered).run company.respond ⟨store, other⟩
    let handled := handlings company.respond terms
      (records.map QueuedMessage.ofRecord) ⟨store, world⟩
    let rehandled := handlings company.respond terms
      ((order.map records.get).map QueuedMessage.ofRecord) ⟨store, other⟩
    ((rehandled.map fun run => some (seen run)) =
        order.map fun position => handled[position.val]?.map seen) ∧
      (∃ tally, run.result = .ok tally ∧ rerun.result = .ok tally) ∧
      ∀ key, rerun.state.memory.get? key = run.state.memory.get? key := by
  intro run rerun handled rehandled
  have ran : run = _ := run_handleEvent company.respond terms batch ⟨store, world⟩
  have reran : rerun = _ := run_handleEvent company.respond terms rebatch ⟨store, other⟩
  have same : (⟨store, world⟩ : Circumstances Store World).memory =
    (⟨store, other⟩ : Circumstances Store World).memory := rfl
  refine ⟨seen_handlings kept terms reorders same,
    ⟨_, congrArg Dialogue.Run.result ran, ?_⟩, ?_⟩
  · rw [reran]
    exact congrArg Except.ok (tally_reordered kept terms reorders same)
  · intro key
    rw [ran, reran]
    exact get?_reordered kept terms reorders same key

/-- The first request for one scope gives way to a request for another one, and the
second one stays behind it. -/
theorem reordering_of_two_scopes :
    let company := Company.calm 1000
    let terms : Terms := ⟨60, .standard, true⟩
    let records := [requestRecord "1" "us" "first", requestRecord "2" "us" "second",
      requestRecord "1" "us" "third"]
    let order : List (Fin records.length) := [1, 0, 2]
    let reordered := order.map records.get
    let run := (handleEvent terms (eventOf records)).run company.respond ⟨Store.empty, ()⟩
    let rerun := (handleEvent terms (eventOf reordered)).run company.respond ⟨Store.empty, ()⟩
    (company.store = Store.answer ∧ Reorders records order ∧
      IsBatch records (eventOf records) ∧ IsBatch reordered (eventOf reordered)) ∧
    (∃ tally, run.result = .ok tally ∧ rerun.result = .ok tally) ∧
      ∀ key, rerun.state.memory.get? key = run.state.memory.get? key := by
  intro company terms records order reordered run rerun
  have apart : ¬ SameScope (records.get 1) (records.get 0) := by
    have own : scopeOf (messageAt records 0) = some ⟨"1-us"⟩ := by decide +kernel
    have other : scopeOf (messageAt records 1) = some ⟨"2-us"⟩ := by decide +kernel
    rintro ⟨key, left, right⟩
    have same := (other.symm.trans left).trans (right.symm.trans own)
    exact absurd same (by decide)
  have reorders : Reorders records order := by
    constructor
    · decide
    · simpa [order] using apart
  have batch : IsBatch records (eventOf records) := by
    apply isBatch_eventOf
    · exact List.cons_ne_nil _ _
    · decide +kernel
  have rebatch : IsBatch reordered (eventOf reordered) := by
    apply isBatch_eventOf
    · exact List.cons_ne_nil _ _
    · decide +kernel
  obtain ⟨-, results, stores⟩ := reordering_unobservable company rfl terms Store.empty () ()
    records order reorders (eventOf records) (eventOf reordered) batch rebatch
  exact ⟨⟨rfl, reorders, batch, rebatch⟩, results, stores⟩

end Pacing.Reordering
