import Pacing.Text.Parts

/-!
# Defects of JSON texts

What can be wrong with a JSON text, and where.  A place is given as a line and
a column, both counted in bytes: the line is one more than the number of line
feeds before the place, and the column the number of bytes behind the last of
them.
-/

namespace Pacing.Json

/-- What makes a text no JSON text. -/
inductive SyntaxError where
  | endInValue
  | expectedValue
  | nestedTooDeep
  | expectedWord
  | endInArray
  | expectedCommaOrBracket
  | endInObject
  | expectedCommaOrBrace
  | trailingComma
  | nameNotString
  | expectedColon
  | endInString
  | controlCharacter
  | invalidEscape
  | loneSurrogate
  | endOfSurrogatePair
  | invalidNumber
  | numberOutOfRange
  | trailingCharacters
  deriving DecidableEq, Repr

namespace SyntaxError

def message : SyntaxError → String
  | .endInValue => "EOF while parsing a value"
  | .expectedValue => "expected value"
  | .nestedTooDeep => "recursion limit exceeded"
  | .expectedWord => "expected ident"
  | .endInArray => "EOF while parsing a list"
  | .expectedCommaOrBracket => "expected `,` or `]`"
  | .endInObject => "EOF while parsing an object"
  | .expectedCommaOrBrace => "expected `,` or `\x7d`"
  | .trailingComma => "trailing comma"
  | .nameNotString => "key must be a string"
  | .expectedColon => "expected `:`"
  | .endInString => "EOF while parsing a string"
  | .controlCharacter =>
    "control character (\\u0000-\\u001F) found while parsing a string"
  | .invalidEscape => "invalid escape"
  | .loneSurrogate => "lone leading surrogate in hex escape"
  | .endOfSurrogatePair => "unexpected end of hex escape"
  | .invalidNumber => "invalid number"
  | .numberOutOfRange => "number out of range"
  | .trailingCharacters => "trailing characters"

end SyntaxError

/-- Where reading stopped: the characters that were left, and how many bytes
of them the place of the error still counts. -/
structure Stop where
  error : SyntaxError
  remaining : List Char
  further : Nat
  deriving DecidableEq, Repr

/-- An error in a text and its place. -/
structure Defect where
  error : SyntaxError
  line : Nat
  column : Nat
  deriving DecidableEq, Repr

namespace Defect

def message (defect : Defect) : String :=
  defect.error.message ++ " at line " ++ toString defect.line ++
    " column " ++ toString defect.column

end Defect

/-- The line and the column behind the given bytes. -/
def placeAfter (bytes : List UInt8) : Nat × Nat :=
  (bytes.count 10 + 1, (bytes.reverse.takeWhile fun byte => byte != 10).length)

namespace Stop

/-- The defect of a text in which reading stopped. -/
def defect (text : String) (stop : Stop) : Defect :=
  let consumed := text.utf8ByteSize - Text.byteCount stop.remaining
  let place := placeAfter (text.toUTF8.data.toList.take (consumed + stop.further))
  ⟨stop.error, place.1, place.2⟩

end Stop

end Pacing.Json
