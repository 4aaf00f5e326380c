import Pacing.Pattern.Atom

/-!
# Sets in brackets

A set of characters is written between brackets as its members: characters,
ranges, shorthands, named sets of ASCII characters and further sets in
brackets.  Two sets can be joined by an operator; operators are read from left
to right.  Reading a set tells how deeply it nests.
-/

namespace Pacing

namespace Pattern

/-- How deeply a list of parts nests, from how deeply they do: a single part
stands for itself, and several ones take a level of their own. -/
def nesting : List Nat → Nat
  | [] => 0
  | [depth] => depth
  | depths => depths.foldl max 0 + 1

/-- A set that is being read. -/
structure OpenSet where
  /-- Whether nothing but minus signs has been read, which are members then. -/
  isFresh : Bool
  /-- How deeply the operand on the left nests, if there is an operator. -/
  left : Option Nat
  /-- How deeply the members nest that have been read since. -/
  members : List Nat
  deriving DecidableEq, Repr

namespace OpenSet

def fresh : OpenSet := ⟨true, none, []⟩

/-- How deeply the operand nests that ends here. -/
def depth (set : OpenSet) : Nat :=
  match set.left with
  | none => nesting set.members
  | some left => max left (nesting set.members) + 1

/-- A set with a member that nests to a depth. -/
def add (set : OpenSet) (depth : Nat) : OpenSet :=
  ⟨false, set.left, depth :: set.members⟩

/-- A set with a minus sign among its first members. -/
def addMinus (set : OpenSet) : OpenSet :=
  ⟨true, set.left, 0 :: set.members⟩

/-- A set behind an operator. -/
def operate (set : OpenSet) : OpenSet :=
  ⟨false, some set.depth, []⟩

end OpenSet

/-- The names of sets of ASCII characters. -/
def setNames : List String :=
  ["alnum", "alpha", "ascii", "blank", "cntrl", "digit", "graph", "lower", "print",
    "punct", "space", "upper", "word", "xdigit"]

/-- Reads a named set behind its opening bracket, and whether it is negated. -/
def readNamedSet? : List Char → Option (Bool × List Char)
  | ':' :: rest =>
    let negated := rest.head? = some '^'
    let text := if negated then rest.drop 1 else rest
    match text.dropWhile (· != ':') with
    | ':' :: ']' :: rest =>
      if setNames.contains (String.ofList (text.takeWhile (· != ':'))) then
        some (negated, rest)
      else none
    | _ => none
  | _ => none

/-- Reads a character or an escape in a set. -/
def readMemberAtom (mode : Mode) : List Char → Option (Atom × List Char)
  | [] => none
  | '\\' :: rest => readEscape mode rest
  | character :: rest => some (.literal character false, rest)

/-- Reads a member that is not in brackets, which may be a range.  A minus sign
makes one unless it is the last character of the set or of an operator. -/
def readMember (mode : Mode) (text : List Char) : Option (List Char) := do
  let (first, rest) ← readMemberAtom mode text
  let single := if first.isAcceptedMember mode then some rest else none
  match mode.skipSpace rest with
  | '-' :: behind =>
    if mode.next? behind = some ']' ∨ mode.next? behind = some '-' then single
    else
      let (last, rest) ← readMemberAtom mode (mode.skipSpace behind)
      if first.isAcceptedRange mode last then some rest else none
  | _ => single

/-- Reads what follows an opening bracket, up to the members. -/
def openSet (mode : Mode) (text : List Char) : Option (List Char) :=
  match mode.skipSpace text with
  | '^' :: rest => if mode.acceptsComplement then some rest else none
  | rest => some rest

/-- Reads a set from some member on to its closing bracket, and tells how
deeply it nests.  The sets around it are given from the inside out. -/
def readMembers (mode : Mode) : (calls : Nat) → OpenSet → List OpenSet → List Char →
    Option (Nat × List Char)
  | 0, _, _, _ => none
  | calls + 1, set, outer, text =>
    match mode.skipSpace text with
    | [] => none
    | ']' :: rest =>
      if set.isFresh && set.members.isEmpty then
        if mode.acceptsMember ']' then readMembers mode calls (set.add 0) outer rest
        else none
      else
        match outer with
        | [] => some (set.depth + 1, rest)
        | parent :: outer => readMembers mode calls (parent.add (set.depth + 1)) outer rest
    | '[' :: rest =>
      match readNamedSet? rest with
      | some (negated, rest) =>
        if mode.acceptsNamedSet negated then readMembers mode calls (set.add 0) outer rest
        else none
      | none => do
        readMembers mode calls .fresh (set :: outer) (← openSet mode rest)
    | '-' :: rest =>
      if set.isFresh then
        if mode.acceptsMember '-' then readMembers mode calls set.addMinus outer rest
        else none
      else
        match rest with
        | '-' :: rest => readMembers mode calls set.operate outer rest
        | rest => do
          readMembers mode calls (set.add 0) outer (← readMember mode ('-' :: rest))
    | '&' :: '&' :: rest => readMembers mode calls set.operate outer rest
    | '~' :: '~' :: rest => readMembers mode calls set.operate outer rest
    | text => do
      readMembers mode calls (set.add 0) outer (← readMember mode text)

/-- Reads a set behind its opening bracket, and tells how deeply it nests. -/
def readSet (mode : Mode) (text : List Char) : Option (Nat × List Char) := do
  readMembers mode (text.length + 1) .fresh [] (← openSet mode text)

end Pattern

end Pacing
