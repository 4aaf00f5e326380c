import Pacing.Log
import Pacing.Pattern.Reader
import Pacing.Text.Parts
import Pacing.Text.Real

/-!
# Log filters

Which log lines are shown.  A filter is a list of directives.  A directive
concerns the lines whose source begins with its own and that have its field,
and it names the last level that is shown of them.  Of the directives that
concern a line the most specific one decides, and of equally specific ones the
last; a line that none concerns is not shown.

A directive is written `source[span{field}]=level`, where every part can be left
out.  Filters are written as directives between commas.
-/

namespace Pacing

namespace LogLevel

/-- The rank up to which every line is shown. -/
def greatestRank : Nat := 5

/-- The names of the levels up to which lines are shown, with their ranks. -/
def rankNames : List (String × Nat) :=
  [("off", 0), ("error", LogLevel.error.rank), ("warn", LogLevel.warn.rank),
    ("info", LogLevel.info.rank), ("debug", LogLevel.debug.rank), ("trace", greatestRank)]

/-- The rank that a text denotes: a numeral in range, or a name in any case of
its ASCII letters. -/
def rankOfText? (text : String) : Option Nat :=
  let byName := rankNames.lookup (String.ofList (text.toList.map Char.toLower))
  match Text.readInteger .unsigned64 text with
  | .ok number => if number.toNat ≤ greatestRank then some number.toNat else byName
  | .error _ => byName

end LogLevel

/-- Why a text is no filter. -/
inductive LogFilterDefect where
  | malformed
  /-- A part of a directive would have to begin or to end inside of a
  character. -/
  | cutCharacter
  deriving DecidableEq, Repr

/-- A field that a directive asks for, and the value that it asks for. -/
structure FieldPattern where
  name : String
  value : Option String
  deriving DecidableEq, Repr

structure LogDirective where
  source : Option String
  span : Option String
  field : Option FieldPattern
  rank : Nat
  deriving DecidableEq, Repr

namespace LogDirective

/-! ## Which lines a directive concerns -/

/-- Whether a line of a source is concerned.  A directive for a span or for a
value of a field concerns only what happens inside spans, and the service logs
outside of them. -/
def concerns (directive : LogDirective) (source : String) (line : LogLine) : Bool :=
  directive.span.isNone &&
    (match directive.field with
      | none => true
      | some pattern => pattern.value.isNone && line.fieldNames.contains pattern.name) &&
    (match directive.source with
      | none => true
      | some start => start.toList.isPrefixOf source.toList)

/-- How much of a source a directive names; naming none is less than naming
the empty one. -/
def sourceLength (directive : LogDirective) : Nat :=
  match directive.source with
  | none => 0
  | some source => source.length + 1

/-- Whether a directive is at least as specific as another one.  The length of
the source counts first, and then the field.  Of different fields the later one
in the order of their names is the more specific. -/
def isAsSpecificAs (directive other : LogDirective) : Bool :=
  if directive.sourceLength = other.sourceLength then
    match directive.field, other.field with
    | _, none => true
    | none, some _ => false
    | some pattern, some otherPattern => ¬ pattern.name < otherPattern.name
  else other.sourceLength < directive.sourceLength

/-! ## Reading -/

/-- The characters of a text from one place on and before another. -/
def cut (text : List Char) (start stop : Nat) : Except LogFilterDefect (List Char) :=
  match (Text.takeBytes? stop text).bind (Text.dropBytes? start) with
  | some part => .ok part
  | none => .error .cutCharacter

/-- The characters of a text from a place on. -/
def cutFrom (text : List Char) (start : Nat) : Except LogFilterDefect (List Char) :=
  match Text.dropBytes? start text with
  | some part => .ok part
  | none => .error .cutCharacter

/-- Reads the rank that is written from a place on, behind an equals sign;
without a text it is the greatest one. -/
def readRank (text : List Char) (start : Nat) : Except LogFilterDefect Nat := do
  let part ← cutFrom text start
  if part.isEmpty then .ok LogLevel.greatestRank
  else
    match LogLevel.rankOfText? (String.ofList part) with
    | some rank => .ok rank
    | none => .error .malformed

/-- Whether a text can be asked for as the value of a field: a number, or a
pattern. -/
def isValue (text : List Char) : Bool :=
  Text.isReal text || Pattern.isPattern text

/-- Reads the field of a directive. -/
def readField (text : List Char) : Except LogFilterDefect FieldPattern :=
  if text.isEmpty then .error .malformed
  else
    match Text.pieces '=' text with
    | [] => .error .malformed
    | [name] => .ok ⟨String.ofList name, none⟩
    | name :: value :: _ =>
      if isValue value then .ok ⟨String.ofList name, some (String.ofList value)⟩
      else .error .malformed

/-- Reads what follows the brackets of a directive, which has to be a level if
it is anything. -/
def readTail (directive : LogDirective) (text : List Char) (place : Nat) :
    List Char → Except LogFilterDefect LogDirective
  | [] => .ok directive
  | '=' :: _ => do
    return { directive with rank := ← readRank text (place + 1) }
  | _ => .error .malformed

/-- Whether a character can stand in the source of a directive. -/
def isInSource (character : Char) : Bool :=
  character != '=' && character != '['

/-- Whether a character can stand in the span of a directive. -/
def isInSpan (character : Char) : Bool :=
  character != ']' && character != '{'

/-- Whether a character can stand in the field of a directive. -/
def isInField (character : Char) : Bool :=
  character != '}'

/-- Reads what is between the brackets of a directive and what follows them. -/
def readSpan (source : Option String) (text : List Char) (place : Nat)
    (inner : List Char) : Except LogFilterDefect LogDirective := do
  let stop := place + Text.byteCount (inner.takeWhile isInSpan)
  match inner.dropWhile isInSpan with
  | ']' :: tail =>
    let span := String.ofList (← cut text place stop)
    readTail ⟨source, some span, none, LogLevel.greatestRank⟩ text (stop + 1) tail
  | '{' :: inner =>
    let span ← cut text place stop
    let span := if span.isEmpty then none else some (String.ofList span)
    let fieldStop := stop + 1 + Text.byteCount (inner.takeWhile isInField)
    match inner.dropWhile isInField with
    | '}' :: inner =>
      let field ← readField (← cut text (stop + 1) fieldStop)
      match inner with
      | ']' :: tail =>
        readTail ⟨source, span, some field, LogLevel.greatestRank⟩ text (fieldStop + 2) tail
      | _ => .error .malformed
    | _ => .error .malformed
  | _ => .error .malformed

/-- Whether a directive can begin with a character. -/
def canBegin (character : Char) : Bool :=
  ['[', '-', ':', '_'].contains character || Text.isAlphanumeric character

/-- Reads a directive.  Its parts are told apart without the blank characters at
its two ends, and their places are then counted in the text as it stands. -/
def read (text : List Char) : Except LogFilterDefect LogDirective := do
  let trimmed := Text.trimChars text
  let before := trimmed.takeWhile isInSource
  let stop := Text.byteCount before
  if (trimmed.head?.map canBegin).getD false then
    match trimmed.dropWhile isInSource with
    | [] =>
      let whole := String.ofList text
      match LogLevel.rankOfText? whole with
      | some rank => .ok ⟨none, none, none, rank⟩
      | none => .ok ⟨some whole, none, none, LogLevel.greatestRank⟩
    | '[' :: inner =>
      if before.isEmpty then readSpan none text (stop + 1) inner
      else readSpan (some (String.ofList (← cut text 0 stop))) text (stop + 1) inner
    | _ =>
      let source := String.ofList (← cut text 0 stop)
      return ⟨some source, none, none, ← readRank text (stop + 1)⟩
  else .error .malformed

end LogDirective

abbrev LogFilter := List LogDirective

namespace LogFilter

/-- Shows the lines up to a level, whatever their source. -/
def upTo (level : LogLevel) : LogFilter :=
  [⟨none, none, none, level.rank⟩]

/-- The directive that decides about a line. -/
def deciding? (filter : LogFilter) (source : String) (line : LogLine) :
    Option LogDirective :=
  (filter.filter fun directive => directive.concerns source line).foldl
    (fun best directive =>
      match best with
      | none => some directive
      | some other => if directive.isAsSpecificAs other then some directive else best)
    none

/-- Whether a line of a source is shown. -/
def shows (filter : LogFilter) (source : String) (line : LogLine) : Bool :=
  match filter.deciding? source line with
  | none => false
  | some directive => line.level.rank ≤ directive.rank

/-- Reads a filter; the first defective directive spoils it. -/
def read (text : String) : Except LogFilterDefect LogFilter :=
  ((Text.pieces ',' text.toList).filter fun piece => !piece.isEmpty).mapM
    LogDirective.read

end LogFilter

end Pacing
