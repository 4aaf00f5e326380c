import Pacing.Pattern.Mode
import Pacing.Text.Numeral

/-!
# Atoms of patterns

The parts of a pattern that have no parts of their own: characters that stand
for themselves, escapes, and places in the text such as its ends.  What has to
be closed by a brace is no atom, since the texts that patterns are taken from
end at one.
-/

namespace Pacing

namespace Pattern

inductive Atom where
  | literal (character : Char) (isByte : Bool)
  /-- The digits, the blanks or the letters, or all else. -/
  | shorthand (negated : Bool)
  /-- A place in the text, maybe one at the end of a word. -/
  | place (isAtWord : Bool)
  deriving DecidableEq, Repr

/-- Reads a number of hexadecimal digits, before each of which there can be
space.  The digits so far have the given value. -/
def readHexDigits (mode : Mode) : (count value : Nat) → List Char →
    Option (Nat × List Char)
  | 0, value, text => some (value, text)
  | count + 1, value, text =>
    match mode.skipSpace text with
    | [] => none
    | character :: rest => do
      readHexDigits mode count (value * 16 + (← Text.hexValue? character)) rest

/-- Reads a character that is written by the digits of its code point. -/
def readCode (mode : Mode) (count : Nat) (isByte : Bool) (text : List Char) :
    Option (Atom × List Char) := do
  let (code, rest) ← readHexDigits mode count 0 text
  if code.isValidChar then some (.literal (Char.ofNat code) isByte, rest) else none

/-- The character that a letter stands for behind a backslash. -/
def control? (letter : Char) : Option Char :=
  match letter with
  | 'a' => some '\x07'
  | 'f' => some '\x0c'
  | 't' => some '\t'
  | 'n' => some '\n'
  | 'r' => some '\r'
  | 'v' => some '\x0b'
  | _ => none

/-- Whether a backslash in front of a character makes it stand for itself. -/
def standsForItself (character : Char) : Bool :=
  character.toNat < 0x80 && !character.isAlphanum && character != '<' && character != '>'

/-- Reads what follows a backslash.  There are no references to groups, and no
properties of characters. -/
def readEscape (mode : Mode) : List Char → Option (Atom × List Char)
  | [] => none
  | 'x' :: rest => readCode mode 2 true rest
  | 'u' :: rest => readCode mode 4 false rest
  | 'U' :: rest => readCode mode 8 false rest
  | letter :: rest =>
    if ['d', 's', 'w'].contains letter then some (.shorthand false, rest)
    else if ['D', 'S', 'W'].contains letter then some (.shorthand true, rest)
    else if ['b', 'B', '<', '>'].contains letter then some (.place true, rest)
    else if ['A', 'z'].contains letter then some (.place false, rest)
    else if standsForItself letter then some (.literal letter false, rest)
    else (control? letter).map fun character => (.literal character false, rest)

namespace Atom

/-- Whether an atom can stand outside of sets. -/
def isAccepted (mode : Mode) : Atom → Bool
  | literal character isByte => mode.acceptsLiteral character isByte
  | shorthand negated => mode.acceptsShorthand negated
  | place isAtWord => !isAtWord || mode.acceptsWordBoundary

/-- Whether an atom can be a member of a set. -/
def isAcceptedMember (mode : Mode) : Atom → Bool
  | literal character _ => mode.acceptsMember character
  | shorthand negated => mode.acceptsShorthand negated
  | place _ => false

/-- Whether two atoms can be the ends of a range in a set. -/
def isAcceptedRange (mode : Mode) : Atom → Atom → Bool
  | literal first _, literal last _ =>
    mode.acceptsMember first && mode.acceptsMember last && first ≤ last
  | _, _ => false

end Atom

end Pattern

end Pacing
