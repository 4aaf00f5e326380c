import Pacing.Json.Basic
import Pacing.Json.Defect
import Pacing.Text.Numeral

/-!
# Reading JSON

A reader of JSON texts by recursive descent.  Every function takes the
characters that are left and gives back a value and the characters behind it,
or the place where it had to stop.  Arrays and objects nest up to a given
number of levels.  The functions that call each other count down a bound on
their calls, which the length of the text sets and no text reaches.

A number that is no integer is read from a coefficient of at most 64 bits and
a power of ten.  Digits that no longer fit count for the power only.
-/

namespace Pacing.Json

abbrev Reading (α : Type) := Except Stop (α × List Char)

/-- Stops at the next character, which the place of the error counts. -/
def stopAt {α : Type} (error : SyntaxError) (remaining : List Char) : Except Stop α :=
  .error ⟨error, remaining, 1⟩

/-- Stops behind the characters that were consumed. -/
def stopBehind {α : Type} (error : SyntaxError) (remaining : List Char) : Except Stop α :=
  .error ⟨error, remaining, 0⟩

def isSpace (character : Char) : Bool :=
  character == ' ' || character == '\n' || character == '\t' || character == '\r'

def skipSpace (input : List Char) : List Char :=
  input.dropWhile isSpace

/-- Reads the letters of a word whose first letter has been read. -/
def readWord (value : Json) : List Char → List Char → Reading Json
  | [], input => .ok (value, input)
  | _ :: _, [] => stopBehind .endInValue []
  | letter :: letters, character :: rest =>
    if character = letter then readWord value letters rest
    else stopAt .expectedWord (character :: rest)

/-! ## Strings -/

/-- The value of four hexadecimal digits at the head of the input. -/
def hexQuad? : List Char → Option (Nat × List Char)
  | first :: second :: third :: fourth :: rest => do
    let high := (← Text.hexValue? first) * 16 + (← Text.hexValue? second)
    let low := (← Text.hexValue? third) * 16 + (← Text.hexValue? fourth)
    return (high * 256 + low, rest)
  | _ => none

/-- Reads the four hexadecimal digits of an escape; four bytes are consumed
whatever they are. -/
def readHexQuad (input : List Char) : Reading Nat :=
  match hexQuad? input with
  | some quad => .ok quad
  | none =>
    if Text.byteCount input < 4 then stopBehind .endInString []
    else .error ⟨.invalidEscape, input, 4⟩

/-- Reads the second half of a surrogate pair, which has to be an escape. -/
def readLowSurrogate (high : Nat) (input : List Char) : Reading Char :=
  match input with
  | [] => stopBehind .endInString []
  | '\\' :: [] => stopBehind .endInString []
  | '\\' :: 'u' :: rest =>
    match readHexQuad rest with
    | .error stop => .error stop
    | .ok (low, rest) =>
      if 0xDC00 ≤ low ∧ low < 0xE000 then
        .ok (Char.ofNat (0x10000 + (high - 0xD800) * 0x400 + (low - 0xDC00)), rest)
      else stopBehind .loneSurrogate rest
  | '\\' :: rest => stopAt .endOfSurrogatePair rest
  | rest => stopAt .endOfSurrogatePair rest

/-- Reads what follows a backslash and `u`. -/
def readUnicodeEscape (input : List Char) : Reading Char :=
  match readHexQuad input with
  | .error stop => .error stop
  | .ok (code, rest) =>
    if 0xDC00 ≤ code ∧ code < 0xE000 then stopBehind .loneSurrogate rest
    else if 0xD800 ≤ code ∧ code < 0xDC00 then readLowSurrogate code rest
    else .ok (Char.ofNat code, rest)

/-- The character that a letter stands for behind a backslash. -/
def simpleEscape? (letter : Char) : Option Char :=
  match letter with
  | '"' => some '"'
  | '\\' => some '\\'
  | '/' => some '/'
  | 'b' => some '\x08'
  | 'f' => some '\x0c'
  | 'n' => some '\n'
  | 'r' => some '\r'
  | 't' => some '\t'
  | _ => none

/-- Reads what follows a backslash. -/
def readEscape : List Char → Reading Char
  | [] => stopBehind .endInString []
  | 'u' :: rest => readUnicodeEscape rest
  | letter :: rest =>
    match simpleEscape? letter with
    | some character => .ok (character, rest)
    | none => stopAt .invalidEscape (letter :: rest)

/-- Reads a string behind its opening quote; `before` holds the characters
read so far, the last one first. -/
def readString : Nat → List Char → List Char → Reading String
  | 0, _, input => stopBehind .endInString input
  | _ + 1, _, [] => stopBehind .endInString []
  | calls + 1, before, character :: rest =>
    if character = '"' then .ok (String.ofList before.reverse, rest)
    else if character = '\\' then
      match readEscape rest with
      | .error stop => .error stop
      | .ok (escaped, rest) => readString calls (escaped :: before) rest
    else if character.toNat < 0x20 then stopAt .controlCharacter (character :: rest)
    else readString calls (character :: before) rest

/-! ## Numbers -/

/-- An exponent beyond this one is not read to its end. -/
def greatestExponent : Nat := 2147483647

/-- Reads the digits of an exponent, up to the one that makes it too great. -/
def readExponentDigits : Nat → List Char → Nat × List Char
  | exponent, [] => (exponent, [])
  | exponent, character :: rest =>
    if character.isDigit then
      let next := exponent * 10 + Text.digitValue character
      if greatestExponent < next then (next, rest) else readExponentDigits next rest
    else (exponent, character :: rest)

/-- The greatest coefficient that digits are collected into. -/
def greatestCoefficient : Nat := 0xFFFFFFFFFFFFFFFF

/-- Appends digits to a coefficient as long as it stays in range; the digits
from the first one that does not fit are left over. -/
def appendDigits : (coefficient : Nat) → List Char → Nat × List Char
  | coefficient, [] => (coefficient, [])
  | coefficient, digit :: rest =>
    let next := coefficient * 10 + Text.digitValue digit
    if greatestCoefficient < next then (coefficient, digit :: rest)
    else appendDigits next rest

/-- The number that a decimal is read as, read up to the given input. -/
def readReal (negative : Bool) (coefficient : Nat) (power : Int)
    (input : List Char) : Reading Json :=
  match Binary64.ofDecimal negative coefficient power with
  | some number => .ok (.real number, input)
  | none => stopBehind .numberOutOfRange input

/-- Reads the digits of an exponent and closes the number, whose decimal has
the given power of ten so far. -/
def readSignedExponent (negative : Bool) (coefficient : Nat) (power : Int)
    (negativeExponent : Bool) (input : List Char) : Reading Json :=
  match input with
  | [] => stopBehind .endInValue []
  | character :: _ =>
    if character.isDigit then
      let (exponent, rest) := readExponentDigits 0 input
      if greatestExponent < exponent then
        if coefficient ≠ 0 ∧ negativeExponent = false then
          stopBehind .numberOutOfRange rest
        else
          .ok (.real (Binary64.zero negative), rest.dropWhile Char.isDigit)
      else
        let signed : Int := if negativeExponent then -exponent else exponent
        readReal negative coefficient (power + signed) rest
    else stopAt .invalidNumber input

/-- Reads the exponent of a number behind its letter. -/
def readExponent (negative : Bool) (coefficient : Nat) (power : Int) :
    List Char → Reading Json
  | '+' :: rest => readSignedExponent negative coefficient power false rest
  | '-' :: rest => readSignedExponent negative coefficient power true rest
  | input => readSignedExponent negative coefficient power false input

/-- Reads what follows the point of a number.  Its digits go on filling the
coefficient, also behind whole digits that were left over. -/
def readFraction (negative : Bool) (coefficient : Nat) (power : Int)
    (input : List Char) : Reading Json :=
  let fraction := input.takeWhile Char.isDigit
  let rest := input.dropWhile Char.isDigit
  match fraction, rest with
  | [], [] => stopBehind .endInValue []
  | [], rest => stopAt .invalidNumber rest
  | fraction, rest =>
    let (coefficient, leftOver) := appendDigits coefficient fraction
    let power := power - (fraction.length - leftOver.length : Nat)
    match rest with
    | 'e' :: rest => readExponent negative coefficient power rest
    | 'E' :: rest => readExponent negative coefficient power rest
    | rest => readReal negative coefficient power rest

/-- The value of a numeral without point and exponent: an integer where a word
can hold it, except that minus zero is no integer. -/
def readWhole (negative : Bool) (coefficient : Nat) (power : Nat)
    (input : List Char) : Reading Json :=
  let signed : Int := if negative then -coefficient else coefficient
  match power, WordInteger.ofInt? signed with
  | 0, some word =>
    if negative = true ∧ coefficient = 0 then .ok (.real (Binary64.zero true), input)
    else .ok (.integer word, input)
  | power, _ => readReal negative coefficient power input

/-- Reads a number behind its sign, where a digit has to stand. -/
def readMagnitude (negative : Bool) (input : List Char) : Reading Json :=
  let whole := input.takeWhile Char.isDigit
  let rest := input.dropWhile Char.isDigit
  match whole with
  | [] =>
    match rest with
    | [] => stopBehind .endInValue []
    | rest => stopAt .invalidNumber rest
  | '0' :: second :: more => stopAt .invalidNumber (second :: more ++ rest)
  | whole =>
    let (coefficient, leftOver) := appendDigits 0 whole
    match rest with
    | '.' :: rest => readFraction negative coefficient leftOver.length rest
    | 'e' :: rest => readExponent negative coefficient leftOver.length rest
    | 'E' :: rest => readExponent negative coefficient leftOver.length rest
    | rest => readWhole negative coefficient leftOver.length rest

/-! ## Values -/

mutual

/-- Reads a value inside of which `levels` more levels may nest. -/
def readValue : (calls levels : Nat) → List Char → Reading Json
  | 0, _, input => stopAt .endInValue input
  | calls + 1, levels, input =>
    match skipSpace input with
    | [] => stopAt .endInValue []
    | 'n' :: rest => readWord .null ['u', 'l', 'l'] rest
    | 't' :: rest => readWord (.bool true) ['r', 'u', 'e'] rest
    | 'f' :: rest => readWord (.bool false) ['a', 'l', 's', 'e'] rest
    | '"' :: rest =>
      match readString calls [] rest with
      | .error stop => .error stop
      | .ok (text, rest) => .ok (.string text, rest)
    | '[' :: rest =>
      match levels with
      | 0 => stopAt .nestedTooDeep ('[' :: rest)
      | levels + 1 =>
        match skipSpace rest with
        | [] => stopAt .endInArray []
        | ']' :: rest => .ok (.array [], rest)
        | rest => readItems calls levels [] rest
    | '{' :: rest =>
      match levels with
      | 0 => stopAt .nestedTooDeep ('{' :: rest)
      | levels + 1 =>
        match skipSpace rest with
        | [] => stopAt .endInObject []
        | '}' :: rest => .ok (.object [], rest)
        | rest => readMembers calls levels [] rest
    | '-' :: rest => readMagnitude true rest
    | character :: rest =>
      if character.isDigit then readMagnitude false (character :: rest)
      else stopAt .expectedValue (character :: rest)

/-- Reads the items of an array from one of them on; `before` holds the items
read so far, the last one first. -/
def readItems : (calls levels : Nat) → List Json → List Char → Reading Json
  | 0, _, _, input => stopAt .endInArray input
  | calls + 1, levels, before, input =>
    match readValue calls levels input with
    | .error stop => .error stop
    | .ok (item, rest) =>
      match skipSpace rest with
      | [] => stopAt .endInArray []
      | ']' :: rest => .ok (.array (item :: before).reverse, rest)
      | ',' :: rest =>
        match skipSpace rest with
        | ']' :: rest => stopAt .trailingComma (']' :: rest)
        | rest => readItems calls levels (item :: before) rest
      | rest => stopAt .expectedCommaOrBracket rest

/-- Reads the members of an object from the name of one of them on; `before`
holds the members read so far. -/
def readMembers : (calls levels : Nat) → Members → List Char → Reading Json
  | 0, _, _, input => stopAt .endInObject input
  | calls + 1, levels, before, input =>
    match input with
    | '"' :: rest =>
      match readString calls [] rest with
      | .error stop => .error stop
      | .ok (name, rest) =>
        match skipSpace rest with
        | [] => stopAt .endInObject []
        | ':' :: rest =>
          match readValue calls levels rest with
          | .error stop => .error stop
          | .ok (value, rest) =>
            let members := Members.insert name value before
            match skipSpace rest with
            | [] => stopAt .endInObject []
            | '}' :: rest => .ok (.object members, rest)
            | ',' :: rest =>
              match skipSpace rest with
              | [] => stopAt .endInValue []
              | '}' :: rest => stopAt .trailingComma ('}' :: rest)
              | rest => readMembers calls levels members rest
            | rest => stopAt .expectedCommaOrBrace rest
        | rest => stopAt .expectedColon rest
    | rest => stopAt .nameNotString rest

end

/-- Reads a whole text, in which nothing but space may follow the value. -/
def readChars (levels : Nat) (input : List Char) : Except Stop Json :=
  match readValue (2 * input.length + 2) levels input with
  | .error stop => .error stop
  | .ok (value, rest) =>
    match skipSpace rest with
    | [] => .ok value
    | rest => stopAt .trailingCharacters rest

/-- How deep arrays and objects may nest in a message. -/
def messageLevels : Nat := 127

/-- The value that a text denotes, or its first defect. -/
def readWithin (levels : Nat) (text : String) : Except Defect Json :=
  match readChars levels text.toList with
  | .error stop => .error (stop.defect text)
  | .ok value => .ok value

/-- The value that the text of a message denotes, or its first defect. -/
def read (text : String) : Except Defect Json :=
  readWithin messageLevels text

end Pacing.Json
