import Pacing.Text.Blank

/-!
# Modes of patterns

A pattern is a regular expression.  It is matched byte by byte against texts
in UTF-8, by an automaton that knows nothing about characters but their codes:
neither which of them are letters, digits or blanks, nor which differ in case
only.  So the mode in which a place of a pattern is read decides what can
stand there.

A place that matches characters cannot name one in any case, nor a class of
characters by what they are.  A place that matches bytes knows the letters,
digits and blanks of ASCII, and can match no byte that is a part of a
character only.
-/

namespace Pacing

namespace Pattern

/-- How a place of a pattern is read. -/
structure Mode where
  /-- Whether blank characters and comments between the parts are left out. -/
  ignoresSpace : Bool
  ignoresCase : Bool
  /-- Whether characters are matched, and not bytes. -/
  matchesCharacters : Bool
  deriving DecidableEq, Repr

namespace Mode

/-- The mode in which a pattern begins. -/
def initial : Mode := ⟨false, false, true⟩

/-! ## Changing the mode -/

/-- The letters that switch something on, or off behind a minus sign.  Those
that are not about the fields of a mode decide what is matched, but not what
can be written. -/
def flagLetters : List Char := ['i', 'm', 's', 'U', 'u', 'R', 'x']

/-- Whether a text is a list of flags.  Each flag and the minus sign stand
there once at most, and the minus sign is not the last. -/
def areFlags (flags : List Char) : Bool :=
  (flags.all fun flag => flag = '-' || flagLetters.contains flag) && flags.Nodup &&
    flags.getLast? != some '-'

/-- What a flag is switched to, from what it was. -/
def switch (flags : List Char) (letter : Char) (before : Bool) : Bool :=
  if (flags.takeWhile (· != '-')).contains letter then true
  else if flags.contains letter then false
  else before

/-- The mode behind a list of flags. -/
def update (mode : Mode) (flags : List Char) : Mode where
  ignoresSpace := switch flags 'x' mode.ignoresSpace
  ignoresCase := switch flags 'i' mode.ignoresCase
  matchesCharacters := switch flags 'u' mode.matchesCharacters

/-! ## Space between the parts -/

/-- A text from its first character on that is neither blank nor in a comment,
which goes from a number sign to the end of the line. -/
def skipComments : (inComment : Bool) → List Char → List Char
  | _, [] => []
  | true, character :: rest => skipComments (character != '\n') rest
  | false, character :: rest =>
    if Text.isBlankChar character then skipComments false rest
    else if character = '#' then skipComments true rest
    else character :: rest

/-- A text from its next part on. -/
def skipSpace (mode : Mode) (text : List Char) : List Char :=
  if mode.ignoresSpace then skipComments false text else text

/-- The character that is looked at to tell what a minus sign in front of the
text means.  The blank characters in front of it are passed over and one
number sign among them, but not what a comment says. -/
def next? (mode : Mode) (text : List Char) : Option Char :=
  if mode.ignoresSpace then
    match text.dropWhile Text.isBlankChar with
    | '#' :: rest => (rest.dropWhile Text.isBlankChar).head?
    | rest => rest.head?
  else text.head?

/-! ## What can stand at a place -/

/-- Whether a character can stand for itself.  One that is written as a byte
has to be a whole character where bytes are matched. -/
def acceptsLiteral (mode : Mode) (character : Char) (isByte : Bool) : Bool :=
  if mode.matchesCharacters then !mode.ignoresCase
  else !(isByte && 0x80 ≤ character.toNat)

/-- Whether a character can be a member of a set or an end of a range. -/
def acceptsMember (mode : Mode) (character : Char) : Bool :=
  if mode.matchesCharacters then !mode.ignoresCase else character.toNat < 0x80

/-- Whether the digits, the blanks or the letters can be named by a letter, or
all else if negated. -/
def acceptsShorthand (mode : Mode) (negated : Bool) : Bool :=
  !mode.matchesCharacters && !negated

/-- Whether a set of ASCII characters can be named in a set, or all else if
negated. -/
def acceptsNamedSet (mode : Mode) (negated : Bool) : Bool :=
  if mode.matchesCharacters then !mode.ignoresCase else !negated

/-- Whether a set can be what is not in it. -/
def acceptsComplement (mode : Mode) : Bool :=
  mode.matchesCharacters

/-- Whether a point can stand for any character. -/
def acceptsPoint (mode : Mode) : Bool :=
  mode.matchesCharacters

/-- Whether the ends of words can be asked for. -/
def acceptsWordBoundary (mode : Mode) : Bool :=
  !mode.matchesCharacters

end Mode

end Pattern

end Pacing
