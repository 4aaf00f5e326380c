import Pacing.Decimal.Binary64

/-!
# JSON values

JSON values with the distinctions that queue messages make: an integer of a
64-bit word is kept as an integer, every other number is a binary64 number,
and the members of an object are sorted by name, one for each name.
-/

namespace Pacing

/-- The integers that a signed or an unsigned 64-bit word can hold. -/
structure WordInteger where
  value : Int
  least_le : -0x8000000000000000 ≤ value
  le_greatest : value ≤ 0xFFFFFFFFFFFFFFFF
  deriving DecidableEq, Repr

namespace WordInteger

/-- The word integer of a given value, if there is one. -/
def ofInt? (value : Int) : Option WordInteger :=
  if lower : -0x8000000000000000 ≤ value then
    if upper : value ≤ 0xFFFFFFFFFFFFFFFF then some ⟨value, lower, upper⟩ else none
  else none

/-- Two word integers with one value are the same. -/
@[ext] theorem ext {left right : WordInteger} (values : left.value = right.value) :
    left = right := by
  cases left
  cases right
  simp_all

@[simp] theorem ofInt?_value (integer : WordInteger) :
    ofInt? integer.value = some integer := by
  simp only [ofInt?, dif_pos integer.least_le, dif_pos integer.le_greatest]

end WordInteger

inductive Json where
  | null
  | bool (value : Bool)
  | integer (value : WordInteger)
  | real (value : Binary64)
  | string (text : String)
  | array (items : List Json)
  | object (members : List (String × Json))
  deriving Repr

namespace Json

/-- The members of an object, sorted by name in the order of code points. -/
abbrev Members := List (String × Json)

namespace Members

/-- Puts a member at its place, instead of one of the same name. -/
def insert (name : String) (value : Json) : Members → Members
  | [] => [(name, value)]
  | member :: rest =>
    if name = member.1 then (name, value) :: rest
    else if name < member.1 then (name, value) :: member :: rest
    else member :: insert name value rest

/-- The value of the member of a given name. -/
def get? (members : Members) (name : String) : Option Json :=
  (members.find? fun member => member.1 = name).map Prod.snd

/-- The members listed in any order, the last of each name winning. -/
def ofList (entries : List (String × Json)) : Members :=
  entries.foldl (fun members entry => insert entry.1 entry.2 members) []

@[simp] theorem get?_nil (name : String) : get? [] name = none := rfl

@[simp] theorem get?_cons (member : String × Json) (rest : Members) (name : String) :
    get? (member :: rest) name =
      if member.1 = name then some member.2 else get? rest name := by
  by_cases same : member.1 = name <;> simp [get?, same]

/-- After an insertion the name holds the new value and every other name what
it held before. -/
theorem get?_insert (members : Members) (name : String) (value : Json) (other : String) :
    get? (insert name value members) other =
      if name = other then some value else get? members other := by
  induction members with
  | nil => simp [insert]
  | cons member rest hypothesis =>
    unfold insert
    split
    · next same => by_cases hit : name = other <;> simp_all
    · split
      · simp
      · next different _ =>
        rw [get?_cons, hypothesis, get?_cons]
        by_cases hit : name = other
        · have apart : member.1 ≠ other := fun equal => different (hit.trans equal.symm)
          simp [hit, apart]
        · simp [hit]

/-! ## Order -/

/-- Members in rising order of their names, with each name once. -/
def Sorted (members : Members) : Prop :=
  members.Pairwise fun left right => left.1 < right.1

theorem mem_insert {name : String} {value : Json} {members : Members}
    {member : String × Json} (found : member ∈ insert name value members) :
    member = (name, value) ∨ member ∈ members := by
  induction members with
  | nil => simpa [insert] using found
  | cons head rest hypothesis =>
    unfold insert at found
    split at found
    · rcases List.mem_cons.mp found with here | there
      · exact .inl here
      · exact .inr (List.mem_cons_of_mem head there)
    · split at found
      · exact List.mem_cons.mp found
      · rcases List.mem_cons.mp found with here | there
        · exact .inr (here ▸ List.mem_cons_self)
        · exact (hypothesis there).imp_right (List.mem_cons_of_mem head)

theorem sorted_insert (name : String) (value : Json) {members : Members}
    (sorted : Sorted members) : Sorted (insert name value members) := by
  induction members with
  | nil => exact List.pairwise_singleton _ _
  | cons head rest hypothesis =>
    obtain ⟨before, behind⟩ := List.pairwise_cons.mp sorted
    unfold insert
    split
    · next same =>
      exact List.pairwise_cons.mpr ⟨fun other member => same ▸ before other member, behind⟩
    · next different =>
      split
      · next less =>
        refine List.pairwise_cons.mpr ⟨?_, sorted⟩
        intro other member
        rcases List.mem_cons.mp member with here | there
        · exact here ▸ less
        · exact String.lt_trans less (before other there)
      · next notLess =>
        refine List.pairwise_cons.mpr ⟨?_, hypothesis behind⟩
        intro other member
        rcases mem_insert member with here | there
        · have greater : ¬ name ≤ head.1 := fun le =>
            different (Std.le_antisymm le (Std.not_lt.mp notLess))
          exact here ▸ Std.not_le.mp greater
        · exact before other there

end Members

/-- The members of an object; any other value has none. -/
def members? : Json → Option Members
  | object members => some members
  | _ => none

/-- The member of an object under a name. -/
def member? (value : Json) (name : String) : Option Json :=
  value.members?.bind fun members => members.get? name

def items? : Json → Option (List Json)
  | array items => some items
  | _ => none

def text? : Json → Option String
  | string text => some text
  | _ => none

end Json

end Pacing
