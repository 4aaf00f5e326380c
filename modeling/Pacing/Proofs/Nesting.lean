import Pacing.Json.Reader

/-!
# What reading gives

The reader goes down one level for every array and object it enters, and puts every
member of an object at its place.  So the values it gives nest no deeper than it was
allowed to go, and the members of every object in them are in order.
-/

namespace Pacing.Json

instance (members : Members) : Decidable members.Sorted :=
  inferInstanceAs (Decidable (List.Pairwise _ _))

/-- Arrays and objects nest up to a number of levels, and the members of every object are
in order. -/
inductive Nests : Nat → Json → Prop where
  | null (levels : Nat) : Nests levels .null
  | bool (levels : Nat) (value : Bool) : Nests levels (.bool value)
  | integer (levels : Nat) (value : WordInteger) : Nests levels (.integer value)
  | real (levels : Nat) (value : Binary64) : Nests levels (.real value)
  | string (levels : Nat) (text : String) : Nests levels (.string text)
  | array {levels : Nat} {items : List Json} (within : ∀ item ∈ items, Nests levels item) :
      Nests (levels + 1) (.array items)
  | object {levels : Nat} {members : Members} (sorted : members.Sorted)
      (within : ∀ member ∈ members, Nests levels member.2) :
      Nests (levels + 1) (.object members)

attribute [simp] Nests.null Nests.bool Nests.integer Nests.real Nests.string

@[simp] theorem nests_array {levels : Nat} {items : List Json} :
    Nests (levels + 1) (.array items) ↔ ∀ item ∈ items, Nests levels item := by
  constructor
  · rintro ⟨⟩
    assumption
  · exact .array

@[simp] theorem nests_object {levels : Nat} {members : Members} :
    Nests (levels + 1) (.object members) ↔
      members.Sorted ∧ ∀ member ∈ members, Nests levels member.2 := by
  constructor
  · rintro ⟨⟩
    constructor <;> assumption
  · rintro ⟨sorted, within⟩
    exact .object sorted within

theorem Nests.mono {levels : Nat} {value : Json} (nests : Nests levels value) {more : Nat}
    (atMost : levels ≤ more) : Nests more value := by
  induction nests generalizing more with
  | null => exact .null more
  | bool _ value => exact .bool more value
  | integer _ value => exact .integer more value
  | real _ value => exact .real more value
  | string _ text => exact .string more text
  | array within induction =>
      obtain ⟨fewer, rfl⟩ : ∃ fewer, more = fewer + 1 := ⟨more - 1, by omega⟩
      exact .array fun item member => induction item member (by omega)
  | object sorted within induction =>
      obtain ⟨fewer, rfl⟩ : ∃ fewer, more = fewer + 1 := ⟨more - 1, by omega⟩
      exact .object sorted fun member isMember => induction member isMember (by omega)

/-- Putting a member among others keeps the order and goes no deeper than it. -/
theorem Nests.insert {levels : Nat} {members : Members} {value : Json}
    (nests : Nests (levels + 1) (.object members)) (inner : Nests levels value)
    (name : String) : Nests (levels + 1) (.object (members.insert name value)) := by
  obtain ⟨sorted, within⟩ := nests_object.mp nests
  refine .object (Members.sorted_insert name value sorted) ?_
  intro member inserted
  rcases Members.mem_insert inserted with rfl | old
  · exact inner
  · exact within member old

/-! ## Numbers and words -/

/-- If a reading gives a value, then a good one. -/
def Gives (good : Json → Prop) (reading : Reading Json) : Prop :=
  ∀ value rest, reading = .ok (value, rest) → good value

variable {good : Json → Prop} {levels : Nat}

theorem Gives.ok {value : Json} (isGood : good value) (rest : List Char) :
    Gives good (.ok (value, rest)) := by
  rintro _ _ ⟨⟩
  exact isGood

theorem Gives.error (stop : Stop) : Gives good (.error stop) := by
  rintro _ _ ⟨⟩

theorem gives_readWord {value : Json} (isGood : good value) (letters input : List Char) :
    Gives good (readWord value letters input) := by
  induction letters generalizing input with
  | nil => exact .ok isGood input
  | cons letter letters induction =>
      cases input with
      | nil => exact .error _
      | cons character rest =>
          unfold readWord
          split
          · exact induction rest
          · exact .error _

theorem gives_readReal (negative : Bool) (coefficient : Nat) (power : Int)
    (input : List Char) : Gives (Nests levels) (readReal negative coefficient power input) := by
  unfold readReal
  split
  · exact .ok (.real levels _) input
  · exact .error _

theorem gives_readSignedExponent (negative : Bool) (coefficient : Nat) (power : Int)
    (negativeExponent : Bool) (input : List Char) :
    Gives (Nests levels)
      (readSignedExponent negative coefficient power negativeExponent input) := by
  unfold readSignedExponent
  split
  · exact .error _
  · split
    · dsimp only
      split
      · split
        · exact .error _
        · exact .ok (.real levels _) _
      · apply gives_readReal
    · exact .error _

theorem gives_readExponent (negative : Bool) (coefficient : Nat) (power : Int)
    (input : List Char) :
    Gives (Nests levels) (readExponent negative coefficient power input) := by
  unfold readExponent
  split <;> apply gives_readSignedExponent

theorem gives_readFraction (negative : Bool) (coefficient : Nat) (power : Int)
    (input : List Char) :
    Gives (Nests levels) (readFraction negative coefficient power input) := by
  unfold readFraction
  dsimp only
  split
  · exact .error _
  · exact .error _
  · split
    · apply gives_readExponent
    · apply gives_readExponent
    · apply gives_readReal

theorem gives_readWhole (negative : Bool) (coefficient power : Nat) (input : List Char) :
    Gives (Nests levels) (readWhole negative coefficient power input) := by
  unfold readWhole
  dsimp only
  split
  · split
    · exact .ok (.real levels _) input
    · exact .ok (.integer levels _) input
  · apply gives_readReal

theorem gives_readMagnitude (negative : Bool) (input : List Char) :
    Gives (Nests levels) (readMagnitude negative input) := by
  unfold readMagnitude
  dsimp only
  split
  · split <;> exact .error _
  · exact .error _
  · split
    · apply gives_readFraction
    · apply gives_readExponent
    · apply gives_readExponent
    · apply gives_readWhole

/-! ## Values -/

/-- What is read with so many calls nests as deep as it may. -/
structure Calls.Nest (calls : Nat) : Prop where
  value (levels : Nat) (input : List Char) :
    Gives (Nests levels) (readValue calls levels input)
  items (levels : Nat) (before : List Json) (input : List Char)
    (nested : ∀ item ∈ before, Nests levels item) :
    Gives (Nests (levels + 1)) (readItems calls levels before input)
  members (levels : Nat) (before : Members) (input : List Char)
    (nested : Nests (levels + 1) (.object before)) :
    Gives (Nests (levels + 1)) (readMembers calls levels before input)

namespace Calls.Nest

theorem none : Calls.Nest 0 where
  value _ _ := .error _
  items _ _ _ _ := .error _
  members _ _ _ _ := .error _

variable {calls : Nat}

theorem readValue_succ (nest : Calls.Nest calls) (levels : Nat) (input : List Char) :
    Gives (Nests levels) (readValue (calls + 1) levels input) := by
  unfold readValue
  split
  · exact .error _
  · exact gives_readWord (.null levels) _ _
  · exact gives_readWord (.bool levels true) _ _
  · exact gives_readWord (.bool levels false) _ _
  · split
    · exact .error _
    · exact .ok (.string levels _) _
  · cases levels with
    | zero => exact .error _
    | succ levels =>
        dsimp only
        split
        · exact .error _
        · exact .ok (.array (by simp)) _
        · exact nest.items levels [] _ (by simp)
  · cases levels with
    | zero => exact .error _
    | succ levels =>
        have empty : Nests (levels + 1) (.object []) := .object .nil (by simp)
        dsimp only
        split
        · exact .error _
        · exact .ok empty _
        · exact nest.members levels [] _ empty
  · apply gives_readMagnitude
  · split
    · apply gives_readMagnitude
    · exact .error _

theorem readItems_succ (nest : Calls.Nest calls) (levels : Nat) (before : List Json)
    (input : List Char) (nested : ∀ item ∈ before, Nests levels item) :
    Gives (Nests (levels + 1)) (readItems (calls + 1) levels before input) := by
  unfold readItems
  split
  · exact .error _
  · next item rest read =>
      have further : ∀ other ∈ item :: before, Nests levels other :=
        List.forall_mem_cons.mpr ⟨nest.value levels input item rest read, nested⟩
      split
      · exact .error _
      · exact .ok (.array fun other member => further other (List.mem_reverse.mp member)) _
      · split
        · exact .error _
        · exact nest.items levels _ _ further
      · exact .error _

theorem readMembers_succ (nest : Calls.Nest calls) (levels : Nat) (before : Members)
    (input : List Char) (nested : Nests (levels + 1) (.object before)) :
    Gives (Nests (levels + 1)) (readMembers (calls + 1) levels before input) := by
  unfold readMembers
  split
  · split
    · exact .error _
    · next name _ _ =>
        split
        · exact .error _
        · next text _ =>
            split
            · exact .error _
            · next value rest read =>
                have further : Nests (levels + 1) (.object (before.insert name value)) :=
                  nested.insert (nest.value levels text value rest read) name
                dsimp only
                split
                · exact .error _
                · exact .ok further _
                · split
                  · exact .error _
                  · exact .error _
                  · exact nest.members levels _ _ further
                · exact .error _
        · exact .error _
  · exact .error _

end Calls.Nest

/-- The three functions that call each other are taken together, by induction on the calls
they may still make. -/
theorem Calls.nest (calls : Nat) : Calls.Nest calls := by
  induction calls with
  | zero => exact .none
  | succ calls induction =>
      exact ⟨induction.readValue_succ, induction.readItems_succ, induction.readMembers_succ⟩

theorem nests_of_readWithin {levels : Nat} {text : String} {value : Json}
    (read : readWithin levels text = .ok value) : Nests levels value := by
  unfold readWithin readChars at read
  cases reading : readValue (2 * text.toList.length + 2) levels text.toList with
  | error stop =>
      rw [reading] at read
      cases read
  | ok result =>
      obtain ⟨found, rest⟩ := result
      have nests := (Calls.nest _).value levels _ found rest reading
      rw [reading] at read
      dsimp only at read
      cases behind : skipSpace rest with
      | nil =>
          rw [behind] at read
          cases read
          exact nests
      | cons character others =>
          rw [behind] at read
          cases read

/-- What a message denotes. -/
theorem nests_of_read {text : String} {value : Json} (read : Json.read text = .ok value) :
    Nests messageLevels value :=
  nests_of_readWithin read

end Pacing.Json
