/-!
# Base64

Texts that write bytes six bits at a time: groups of four characters, the last
one padded with equals signs.  The bits that the padding leaves over are zero, so
that bytes have one text only.
-/

namespace Pacing.Text

/-- The six bits that a character stands for. -/
def sextet? (character : Char) : Option Nat :=
  if character.isUpper then some (character.toNat - 'A'.toNat)
  else if character.isLower then some (character.toNat - 'a'.toNat + 26)
  else if character.isDigit then some (character.toNat - '0'.toNat + 52)
  else if character = '+' then some 62
  else if character = '/' then some 63
  else none

/-- Whether a character stands for six bits, the last of which are zero. -/
def endsWithZeros (character : Char) (bits : Nat) : Bool :=
  match sextet? character with
  | some sextet => sextet % Nat.pow 2 bits = 0
  | none => false

/-- Whether a text writes bytes. -/
def isBase64 : List Char → Bool
  | [] => true
  | [first, second, '=', '='] => (sextet? first).isSome && endsWithZeros second 4
  | [first, second, third, '='] =>
    (sextet? first).isSome && (sextet? second).isSome && endsWithZeros third 2
  | first :: second :: third :: fourth :: rest =>
    (sextet? first).isSome && (sextet? second).isSome && (sextet? third).isSome &&
      (sextet? fourth).isSome && isBase64 rest
  | _ => false

end Pacing.Text
