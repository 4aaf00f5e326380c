import Pacing.Json.Basic
import Pacing.Decimal.Shortest

/-!
# Writing JSON

The compact text of a JSON value: no space between the tokens, members in the
order of their names, integers plain and all other numbers with the fewest
digits that read back, always with a point or an exponent.
-/

namespace Pacing.Json

def hexDigit (value : Nat) : Char :=
  if value < 10 then Char.ofNat ('0'.toNat + value)
  else Char.ofNat ('a'.toNat + (value - 10))

/-- A character inside the quotes of a string.  Only the quote, the backslash
and the control characters below the space are escaped. -/
def writeChar (character : Char) : List Char :=
  match character with
  | '"' => ['\\', '"']
  | '\\' => ['\\', '\\']
  | '\x08' => ['\\', 'b']
  | '\x0c' => ['\\', 'f']
  | '\n' => ['\\', 'n']
  | '\r' => ['\\', 'r']
  | '\t' => ['\\', 't']
  | character =>
    if character.toNat < 0x20 then
      ['\\', 'u', '0', '0', hexDigit (character.toNat / 16), hexDigit (character.toNat % 16)]
    else [character]

def writeString (text : String) : List Char :=
  '"' :: text.toList.flatMap writeChar ++ ['"']

/-! ## Numbers -/

/-- The powers of ten of a leading digit for which a number is written without
an exponent. -/
def positional (leading : Int) : Bool :=
  -5 ≤ leading && leading ≤ 15

def dropTrailingZeros (digits : List Char) : List Char :=
  (digits.reverse.dropWhile fun digit => digit == '0').reverse

/-- A positive decimal whose first digit counts `10 ^ leading`. -/
def writeDigits (digits : List Char) (leading : Int) : List Char :=
  if positional leading then
    if leading < 0 then
      '0' :: '.' :: List.replicate (-leading - 1).toNat '0' ++ digits
    else
      let places := leading.toNat + 1
      if digits.length ≤ places then
        digits ++ List.replicate (places - digits.length) '0' ++ ['.', '0']
      else
        digits.take places ++ '.' :: digits.drop places
  else
    let mantissa :=
      match digits with
      | first :: second :: rest => first :: '.' :: second :: rest
      | digits => digits
    let sign := if leading < 0 then '-' else '+'
    mantissa ++ 'e' :: sign :: Text.digits leading.natAbs

def writeReal (number : Binary64) : List Char :=
  let sign := if number.negative then ['-'] else []
  let decimal := number.shortest
  if decimal.coefficient = 0 then sign ++ ['0', '.', '0']
  else
    let digits := Text.digits decimal.coefficient
    let leading := decimal.power + (digits.length - 1)
    sign ++ writeDigits (dropTrailingZeros digits) leading

/-! ## Values -/

mutual

def writeChars : Json → List Char
  | .null => ['n', 'u', 'l', 'l']
  | .bool true => ['t', 'r', 'u', 'e']
  | .bool false => ['f', 'a', 'l', 's', 'e']
  | .integer word => Text.numeralChars word.value
  | .real number => writeReal number
  | .string text => writeString text
  | .array items => '[' :: writeItems items ++ [']']
  | .object members => '{' :: writeMembers members ++ ['}']

def writeItems : List Json → List Char
  | [] => []
  | [item] => writeChars item
  | item :: rest => writeChars item ++ ',' :: writeItems rest

def writeMembers : List (String × Json) → List Char
  | [] => []
  | [member] => writeMember member
  | member :: rest => writeMember member ++ ',' :: writeMembers rest

def writeMember : String × Json → List Char
  | (name, value) => writeString name ++ ':' :: writeChars value

end

/-- The compact text of a value. -/
def compact (value : Json) : String :=
  String.ofList (writeChars value)

@[simp] theorem compact_toList (value : Json) :
    (compact value).toList = writeChars value := by
  simp [compact]

end Pacing.Json
