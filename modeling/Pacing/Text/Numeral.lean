/-!
# Decimal numerals

Integers as decimal texts.  A numeral that is read may carry a sign and
leading zeros, and has to denote a value of a given range; the characters are
taken from left to right and the first one that cannot be accepted decides
the error.  The numeral that is written for a value carries a sign only when
the value is negative, and no leading zeros.
-/

namespace Pacing.Text

/-- Why a text is not a numeral of a range. -/
inductive NumeralError where
  | empty
  | invalidDigit
  | tooLarge
  | tooSmall
  deriving DecidableEq, Repr

namespace NumeralError

def message : NumeralError → String
  | .empty => "cannot parse integer from empty string"
  | .invalidDigit => "invalid digit found in string"
  | .tooLarge => "number too large to fit in target type"
  | .tooSmall => "number too small to fit in target type"

end NumeralError

/-- The integers from `least` to `greatest`, both included. -/
structure IntegerRange where
  least : Int
  greatest : Int
  deriving DecidableEq, Repr

namespace IntegerRange

def signed64 : IntegerRange := ⟨-0x8000000000000000, 0x7FFFFFFFFFFFFFFF⟩

def unsigned64 : IntegerRange := ⟨0, 0xFFFFFFFFFFFFFFFF⟩

def unsigned32 : IntegerRange := ⟨0, 0xFFFFFFFF⟩

/-- Whether a value lies in the range. -/
def Contains (range : IntegerRange) (value : Int) : Prop :=
  range.least ≤ value ∧ value ≤ range.greatest

instance (range : IntegerRange) (value : Int) : Decidable (range.Contains value) :=
  inferInstanceAs (Decidable (_ ∧ _))

end IntegerRange

/-- The value of a decimal digit. -/
def digitValue (character : Char) : Nat :=
  character.toNat - '0'.toNat

/-- The value of a hexadecimal digit in either case. -/
def hexValue? (character : Char) : Option Nat :=
  if character.isDigit then some (character.toNat - '0'.toNat)
  else if 'a' ≤ character ∧ character ≤ 'f' then some (character.toNat - 'a'.toNat + 10)
  else if 'A' ≤ character ∧ character ≤ 'F' then some (character.toNat - 'A'.toNat + 10)
  else none

/-- Reads the remaining digits of a numeral whose digits so far denote
`value`.  Each digit moves the value away from zero in the direction of
`sign`, and leaving the range is noticed at the digit that does it. -/
def readDigits (range : IntegerRange) (sign : Int) :
    Int → List Char → Except NumeralError Int
  | value, [] => .ok value
  | value, character :: rest =>
    if character.isDigit then
      let next := value * 10 + sign * digitValue character
      if range.greatest < next then .error .tooLarge
      else if next < range.least then .error .tooSmall
      else readDigits range sign next rest
    else .error .invalidDigit

/-- The value denoted by a text in a range.  A minus sign is accepted only
where the range has negative values, and a sign needs a digit behind it. -/
def readInteger (range : IntegerRange) (text : String) : Except NumeralError Int :=
  match text.toList with
  | [] => .error .empty
  | ['+'] => .error .invalidDigit
  | ['-'] => .error .invalidDigit
  | '+' :: digits => readDigits range 1 0 digits
  | '-' :: digits =>
    if range.least < 0 then readDigits range (-1) 0 digits
    else .error .invalidDigit
  | digits => readDigits range 1 0 digits

def readInt64 (text : String) : Except NumeralError Int64 :=
  (readInteger .signed64 text).map Int64.ofInt

def readUInt64 (text : String) : Except NumeralError UInt64 :=
  (readInteger .unsigned64 text).map fun value => UInt64.ofNat value.toNat

def readUInt32 (text : String) : Except NumeralError UInt32 :=
  (readInteger .unsigned32 text).map fun value => UInt32.ofNat value.toNat

/-- The decimal digits of a number, without leading zeros. -/
def digits (value : Nat) : List Char :=
  Nat.toDigits 10 value

/-- The numeral of an integer, with a sign only below zero. -/
def numeralChars : Int → List Char
  | .ofNat value => digits value
  | .negSucc value => '-' :: digits (value + 1)

def numeral (value : Int) : String :=
  String.ofList (numeralChars value)

/-- The decimal digits of a number, filled up with zeros on the left. -/
def paddedDigits (width value : Nat) : List Char :=
  List.replicate (width - (digits value).length) '0' ++ digits value

@[simp] theorem numeral_toList (value : Int) :
    (numeral value).toList = numeralChars value := by
  simp [numeral]

@[simp] theorem readDigits_nil (range : IntegerRange) (sign value : Int) :
    readDigits range sign value [] = .ok value := rfl

end Pacing.Text
