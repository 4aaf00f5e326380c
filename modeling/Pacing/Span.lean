/-!
# Spans of time

Lengths of time as whole seconds in a 64-bit word and nanoseconds below one
second.  Products and sums that do not fit stop at the greatest span.  The
length of a span in nanoseconds is its view `toNanos`.
-/

namespace Pacing

/-- The nanoseconds of a second. -/
def nanosInSecond : Nat := 1000000000

structure Span where
  seconds : UInt64
  nanos : Nat
  nanos_lt : nanos < nanosInSecond
  deriving DecidableEq, Repr

namespace Span

/-- The length of a span in nanoseconds. -/
def toNanos (span : Span) : Nat :=
  span.seconds.toNat * nanosInSecond + span.nanos

def zero : Span := ⟨0, 0, by decide⟩

def greatest : Span := ⟨0xFFFFFFFFFFFFFFFF, 999999999, by decide⟩

/-- The span of a number of seconds and nanoseconds, if the seconds fit. -/
def carry (seconds nanos : Nat) : Span :=
  let total := seconds + nanos / nanosInSecond
  if total < UInt64.size then
    ⟨UInt64.ofNat total, nanos % nanosInSecond, Nat.mod_lt _ (by decide)⟩
  else greatest

def ofNanos (nanos : Nat) : Span :=
  carry 0 nanos

def ofMillis (millis : UInt64) : Span :=
  carry (millis.toNat / 1000) (millis.toNat % 1000 * 1000000)

def add (left right : Span) : Span :=
  carry (left.seconds.toNat + right.seconds.toNat) (left.nanos + right.nanos)

/-- The sum of two spans, if there is a span of this length. -/
def add? (left right : Span) : Option Span :=
  if left.seconds.toNat + right.seconds.toNat + (left.nanos + right.nanos) / nanosInSecond <
      UInt64.size then
    some (left.add right)
  else none

def mul (span : Span) (factor : Nat) : Span :=
  carry (span.seconds.toNat * factor) (span.nanos * factor)

/-- Half of a span, rounded down to whole nanoseconds. -/
def half (span : Span) : Span :=
  carry (span.seconds.toNat / 2)
    ((span.seconds.toNat % 2 * nanosInSecond + span.nanos) / 2)

/-- What is left of a span when another one is taken away. -/
def sub (left right : Span) : Span :=
  if right.nanos ≤ left.nanos then
    if right.seconds ≤ left.seconds then
      carry (left.seconds.toNat - right.seconds.toNat) (left.nanos - right.nanos)
    else zero
  else if right.seconds < left.seconds then
    carry (left.seconds.toNat - right.seconds.toNat - 1)
      (left.nanos + nanosInSecond - right.nanos)
  else zero

/-- Spans are compared by their seconds and then by their nanoseconds. -/
def atMost (left right : Span) : Bool :=
  left.seconds < right.seconds ||
    (left.seconds == right.seconds && left.nanos ≤ right.nanos)

def min (left right : Span) : Span :=
  if left.atMost right then left else right

def max (left right : Span) : Span :=
  if left.atMost right then right else left

end Span

end Pacing
