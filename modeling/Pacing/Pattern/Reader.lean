import Pacing.Pattern.Brackets
import Pacing.Text.Alphanumeric

/-!
# Reading patterns

Which texts are patterns.  A pattern is a choice between sequences of parts:
atoms, sets in brackets, groups in parentheses, and parts that are repeated.
It is read from left to right with the groups around the place kept in a
list.  Flags in parentheses change the mode up to the end of the group that
they stand in, or that they open.  Groups can have names, each of them once.

Patterns nest up to a given depth.
-/

namespace Pacing

namespace Pattern

/-- A part of a sequence. -/
structure Part where
  /-- How deeply the part nests. -/
  depth : Nat
  isRepeatable : Bool
  deriving DecidableEq, Repr

/-- A choice that is being read, with its last sequence. -/
structure Choice where
  mode : Mode
  /-- The parts of the last sequence, the last one first. -/
  parts : List Part
  /-- How deeply the sequences before nest. -/
  branches : List Nat
  deriving DecidableEq, Repr

namespace Choice

/-- A choice of which nothing has been read. -/
def start (mode : Mode) : Choice := ⟨mode, [], []⟩

/-- How deeply the last sequence nests. -/
def sequenceDepth (choice : Choice) : Nat :=
  nesting (choice.parts.map Part.depth)

/-- How deeply the choice nests. -/
def depth (choice : Choice) : Nat :=
  nesting (choice.sequenceDepth :: choice.branches)

/-- A choice with one more part. -/
def add (choice : Choice) (depth : Nat) : Choice :=
  { choice with parts := ⟨depth, true⟩ :: choice.parts }

/-- A choice with flags, which take the place of a part and cannot be
repeated. -/
def addFlags (choice : Choice) (mode : Mode) : Choice :=
  { choice with mode, parts := ⟨0, false⟩ :: choice.parts }

/-- A choice whose last sequence has ended. -/
def branch (choice : Choice) : Choice :=
  { choice with parts := [], branches := choice.sequenceDepth :: choice.branches }

/-- A choice whose last part is repeated. -/
def repeatLast (choice : Choice) : Option Choice :=
  match choice.parts with
  | [] => none
  | part :: parts =>
    if part.isRepeatable then
      some { choice with parts := ⟨part.depth + 1, true⟩ :: parts }
    else none

end Choice

/-- What has been read of a pattern. -/
structure Progress where
  choice : Choice
  /-- The choices around it, from the inside out. -/
  outer : List Choice
  /-- The names of groups so far. -/
  names : List (List Char)
  deriving DecidableEq, Repr

namespace Progress

def initial : Progress := ⟨.start .initial, [], []⟩

/-- The progress behind a part that nests to a depth. -/
def add (progress : Progress) (depth : Nat) : Progress :=
  { progress with choice := progress.choice.add depth }

/-- The progress behind an atom, if it can stand there. -/
def addIf (progress : Progress) (isAccepted : Bool) (rest : List Char) :
    Option (Progress × List Char) :=
  if isAccepted then some (progress.add 0, rest) else none

/-- The progress inside of a group that has just been opened. -/
def enter (progress : Progress) (mode : Mode) : Progress :=
  { progress with choice := .start mode, outer := progress.choice :: progress.outer }

/-- The progress behind a group. -/
def leave (progress : Progress) : Option Progress :=
  match progress.outer with
  | [] => none
  | choice :: outer =>
    some { progress with choice := choice.add (progress.choice.depth + 1), outer }

end Progress

/-! ## Groups -/

/-- Whether a text can be the name of a group. -/
def isGroupName : List Char → Bool
  | [] => false
  | first :: rest =>
    (first = '_' || Text.isAlphabetic first) &&
      rest.all fun character =>
        ['_', '.', '[', ']'].contains character || Text.isAlphanumeric character

/-- Opens a group whose name begins here. -/
def openNamedGroup (progress : Progress) (text : List Char) :
    Option (Progress × List Char) :=
  let name := text.takeWhile (· != '>')
  match text.dropWhile (· != '>') with
  | [] => none
  | _ :: rest =>
    if isGroupName name ∧ ¬ progress.names.contains name then
      some ({ progress.enter progress.choice.mode with names := name :: progress.names },
        rest)
    else none

/-- Whether a character can stand among flags. -/
def isInFlags (character : Char) : Bool :=
  character != ')' && character != ':'

/-- Reads flags, and opens a group if a colon ends them. -/
def readFlags (progress : Progress) (text : List Char) : Option (Progress × List Char) :=
  let flags := text.takeWhile isInFlags
  let mode := progress.choice.mode.update flags
  if Mode.areFlags flags then
    match text.dropWhile isInFlags with
    | ':' :: rest => some (progress.enter mode, rest)
    | ')' :: rest =>
      if flags.isEmpty then none
      else some ({ progress with choice := progress.choice.addFlags mode }, rest)
    | _ => none
  else none

/-- Reads what follows an opening parenthesis.  There are no groups that look
ahead or behind. -/
def openGroup (progress : Progress) (text : List Char) : Option (Progress × List Char) :=
  match progress.choice.mode.skipSpace text with
  | '?' :: 'P' :: '<' :: rest => openNamedGroup progress rest
  | '?' :: '<' :: rest => openNamedGroup progress rest
  | '?' :: rest => readFlags progress rest
  | rest => some (progress.enter progress.choice.mode, rest)

/-! ## Parts -/

/-- A text without the question mark that makes a repetition match as little
as it can. -/
def skipQuestionMark : List Char → List Char
  | '?' :: rest => rest
  | text => text

/-- Repeats the last part. -/
def readRepetition (progress : Progress) (text : List Char) :
    Option (Progress × List Char) := do
  let choice ← progress.choice.repeatLast
  some ({ progress with choice }, skipQuestionMark text)

/-- Reads a part from its first character on. -/
def readPart (progress : Progress) (first : Char) (rest : List Char) :
    Option (Progress × List Char) :=
  let mode := progress.choice.mode
  match first with
  | '(' => openGroup progress rest
  | ')' => progress.leave.map fun progress => (progress, rest)
  | '|' => some ({ progress with choice := progress.choice.branch }, rest)
  | '[' => (readSet mode rest).map fun (depth, rest) => (progress.add depth, rest)
  | '?' => readRepetition progress rest
  | '*' => readRepetition progress rest
  | '+' => readRepetition progress rest
  | '{' => none
  | '\\' => (readEscape mode rest).bind fun (atom, rest) =>
      progress.addIf (atom.isAccepted mode) rest
  | '.' => progress.addIf mode.acceptsPoint rest
  | '^' => progress.addIf true rest
  | '$' => progress.addIf true rest
  | character => progress.addIf (mode.acceptsLiteral character false) rest

/-- Reads the parts of a pattern to the end of the text. -/
def readParts : (calls : Nat) → Progress → List Char → Option Progress
  | 0, _, _ => none
  | calls + 1, progress, text =>
    match progress.choice.mode.skipSpace text with
    | [] => some progress
    | first :: rest =>
      (readPart progress first rest).bind fun (progress, rest) =>
        readParts calls progress rest

/-- How deeply a pattern may nest. -/
def greatestDepth : Nat := 250

/-- Whether a text is a pattern. -/
def isPattern (text : List Char) : Bool :=
  match readParts (text.length + 1) .initial text with
  | none => false
  | some progress => progress.outer.isEmpty && progress.choice.depth ≤ greatestDepth

end Pattern

end Pacing
