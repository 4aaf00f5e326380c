/-!
# Binary64 numbers

Finite binary64 numbers as a sign, a significand and a power of two, and the
roundings into them.  Every operation takes the number nearest to its exact
result; ties go to the even neighbour, and all arithmetic is exact.  A decimal
is read in two roundings: its coefficient is rounded first, and the product or
the quotient with a power of ten after it.
-/

namespace Pacing

/-- The number `significand · 2 ^ exponent`, negated when `negative` holds.
The significand has at most 53 bits, and exactly 53 unless the exponent is the
least one; zero keeps its sign. -/
structure Binary64 where
  negative : Bool
  significand : Nat
  exponent : Int
  deriving DecidableEq, Repr

namespace Binary64

/-- The exponent of the smallest positive number. -/
def leastExponent : Int := -1074

/-- The exponent of the greatest finite number. -/
def greatestExponent : Int := 971

/-- The least significand of 53 bits. -/
def leastNormal : Nat := Nat.pow 2 52

/-- The least number of 54 bits; every significand is below it. -/
def significandBound : Nat := Nat.pow 2 53

/-- The integer nearest to a quotient; a tie goes to the even one. -/
def roundDiv (numerator denominator : Nat) : Nat :=
  let quotient := numerator / denominator
  let twice := 2 * (numerator % denominator)
  if denominator < twice then quotient + 1
  else if twice = denominator ∧ quotient % 2 = 1 then quotient + 1
  else quotient

/-- The ratio `numerator / denominator` divided by `2 ^ exponent`. -/
def unscale (numerator denominator : Nat) (exponent : Int) : Nat × Nat :=
  (numerator * Nat.pow 2 (-exponent).toNat, denominator * Nat.pow 2 exponent.toNat)

/-- The exponent at which a positive ratio has a significand of 53 bits, or
the least exponent where that one is greater. -/
def unitExponent (numerator denominator : Nat) : Int :=
  let estimate := (numerator.log2 : Int) - denominator.log2 - 53
  let scaled := unscale numerator denominator estimate
  max leastExponent
    (if scaled.1 < scaled.2 * significandBound then estimate else estimate + 1)

def zero (negative : Bool) : Binary64 :=
  ⟨negative, 0, leastExponent⟩

/-- Whether the exponent of a number is in range. -/
def IsFinite (number : Binary64) : Prop :=
  number.exponent ≤ greatestExponent

instance (number : Binary64) : Decidable number.IsFinite :=
  inferInstanceAs (Decidable (_ ≤ _))

/-- The number nearest to a ratio, as if exponents had no upper end. -/
def ofRatio (negative : Bool) (numerator denominator : Nat) : Binary64 :=
  if numerator = 0 then zero negative
  else
    let unit := unitExponent numerator denominator
    let scaled := unscale numerator denominator unit
    let rounded := roundDiv scaled.1 scaled.2
    if rounded = significandBound then ⟨negative, leastNormal, unit + 1⟩
    else ⟨negative, rounded, unit⟩

/-- The numerator of the magnitude of a number. -/
def numerator (number : Binary64) : Nat :=
  number.significand * Nat.pow 2 number.exponent.toNat

/-- The denominator of the magnitude of a number. -/
def denominator (number : Binary64) : Nat :=
  Nat.pow 2 (-number.exponent).toNat

/-! ## Powers of ten -/

/-- The greatest power of ten that a number can be multiplied or divided by in
one step. -/
def greatestPower : Nat := 308

/-- The number nearest to a power of ten. -/
def tenPower (power : Nat) : Binary64 :=
  ofRatio false (Nat.pow 10 power) 1

/-- The number nearest to the product with the number nearest to a power of
ten. -/
def timesPower (number : Binary64) (power : Nat) : Binary64 :=
  let factor := tenPower power
  ofRatio number.negative (number.numerator * factor.numerator)
    (number.denominator * factor.denominator)

/-- The number nearest to the quotient by the number nearest to a power of
ten. -/
def overPower (number : Binary64) (power : Nat) : Binary64 :=
  let divisor := tenPower power
  ofRatio number.negative (number.numerator * divisor.denominator)
    (number.denominator * divisor.numerator)

/-- Divides by the greatest power of ten again and again, as long as the number
is not zero. -/
def overGreatestPower : (times : Nat) → Binary64 → Binary64
  | 0, number => number
  | times + 1, number =>
    if number.significand = 0 then number
    else overGreatestPower times (number.overPower greatestPower)

/-- Divides by a power of ten in as few steps as there can be, the full ones
first. -/
def overAnyPower (number : Binary64) (power : Nat) : Binary64 :=
  let times := (power - 1) / greatestPower
  (overGreatestPower times number).overPower (power - times * greatestPower)

/-- The number that the decimal `coefficient · 10 ^ power` is read as, unless it
is too great.  The coefficient is rounded before it is scaled. -/
def ofDecimal (negative : Bool) (coefficient : Nat) : (power : Int) → Option Binary64
  | .ofNat power =>
    let number := ofRatio negative coefficient 1
    if coefficient = 0 then some number
    else if greatestPower < power then none
    else
      let scaled := number.timesPower power
      if scaled.IsFinite then some scaled else none
  | .negSucc power => some ((ofRatio negative coefficient 1).overAnyPower (power + 1))

/-! ## Integers -/

/-- The magnitude nearest to a number among those that have at most 53
significant bits. -/
def nearestMagnitude (magnitude : Nat) : Nat :=
  let unit := Nat.pow 2 (magnitude.log2 - 52)
  roundDiv magnitude unit * unit

/-- The integer nearest to an integer among those that have at most 53
significant bits. -/
def nearestInteger : Int → Int
  | .ofNat magnitude => nearestMagnitude magnitude
  | .negSucc magnitude => -nearestMagnitude (magnitude + 1)

end Binary64

end Pacing
