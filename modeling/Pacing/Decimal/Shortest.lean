import Pacing.Decimal.Binary64
import Pacing.Text.Numeral

/-!
# Shortest decimals

The decimal with the fewest digits that rounds back to a binary64 number, and
of those with equally few digits the nearest to it.

The numbers that round to `m · 2 ^ q` form an interval around it, which holds
its two ends exactly when `m` is even.  A grid of decimals with a given number
of digits meets that interval if one of the two grid points next to the number
lies in it, so it is enough to test these two for one digit, two digits, and
so on; seventeen digits always suffice.
-/

namespace Pacing

/-- The number `coefficient · 10 ^ power`. -/
structure Decimal where
  coefficient : Nat
  power : Int
  deriving DecidableEq, Repr

namespace Binary64

/-- A positive number and the ends of the interval that rounds to it, over
one denominator. -/
structure Interval where
  lower : Nat
  value : Nat
  upper : Nat
  denominator : Nat
  /-- Whether the two ends round to the number as well. -/
  closed : Bool

namespace Interval

/-- The interval of a number, in quarters of its last place.  Below a power of
two the neighbours stand half as far apart. -/
def of (number : Binary64) : Interval :=
  let quarter := number.exponent - 2
  let scale := Nat.pow 2 quarter.toNat
  let below :=
    if number.significand = leastNormal ∧ leastExponent < number.exponent then 1 else 2
  { lower := (4 * number.significand - below) * scale
    value := 4 * number.significand * scale
    upper := (4 * number.significand + 2) * scale
    denominator := Nat.pow 2 (-quarter).toNat
    closed := number.significand % 2 = 0 }

/-- The interval divided by `10 ^ power`. -/
def unscale (interval : Interval) (power : Int) : Interval :=
  let factor := Nat.pow 10 (-power).toNat
  { interval with
    lower := interval.lower * factor
    value := interval.value * factor
    upper := interval.upper * factor
    denominator := interval.denominator * Nat.pow 10 power.toNat }

/-- Whether an integer lies in the interval. -/
def holds (interval : Interval) (point : Nat) : Bool :=
  let scaled := point * interval.denominator
  if interval.closed then interval.lower ≤ scaled && scaled ≤ interval.upper
  else interval.lower < scaled && scaled < interval.upper

/-- The power of ten of the leading digit of the number. -/
def leadingPower (interval : Interval) : Int :=
  if interval.denominator ≤ interval.value then
    (Text.digits (interval.value / interval.denominator)).length - 1
  else
    let places := (Text.digits (interval.denominator / interval.value)).length
    if interval.denominator = interval.value * Nat.pow 10 (places - 1) then
      1 - places
    else
      -places

/-- The integer of the interval that is nearest to the number, if one of the
two next to it lies in the interval; a tie goes to the even one. -/
def nearest? (interval : Interval) : Option Nat :=
  let below := interval.value / interval.denominator
  let twice := 2 * (interval.value % interval.denominator)
  match interval.holds below, interval.holds (below + 1) with
  | true, true =>
    if twice < interval.denominator then some below
    else if interval.denominator < twice then some (below + 1)
    else some (if below % 2 = 0 then below else below + 1)
  | true, false => some below
  | false, true => some (below + 1)
  | false, false => none

end Interval

/-- The shortest decimal that rounds back to the magnitude of a number. -/
def shortest (number : Binary64) : Decimal :=
  if number.significand = 0 then ⟨0, 0⟩
  else
    let interval := Interval.of number
    let leading := interval.leadingPower
    ((List.range 17).findSome? fun (further : Nat) =>
      let power := leading - further
      ((interval.unscale power).nearest?).map fun point => ⟨point, power⟩).getD ⟨0, 0⟩

end Binary64

end Pacing
