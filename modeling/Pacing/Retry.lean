import Pacing.Span

/-!
# Retry policies

How often a commit is attempted, and how long to pause after an attempt that
lost a race.  The pause has a ceiling that doubles with every attempt up to a
maximum; the pause itself is half of the ceiling and a random share of the
rest, so that racing invocations spread out.
-/

namespace Pacing

structure RetryPolicy where
  maxAttempts : UInt32
  baseDelay : Span
  maxDelay : Span
  deriving DecidableEq, Repr

namespace RetryPolicy

/-- A policy with at least one attempt and a maximum that is not below the
first ceiling. -/
def of (maxAttempts : UInt32) (baseDelay maxDelay : Span) : RetryPolicy :=
  { maxAttempts := if maxAttempts = 0 then 1 else maxAttempts
    baseDelay
    maxDelay := maxDelay.max baseDelay }

def defaultAttempts : UInt32 := 5

def defaultBaseDelay : Span := Span.ofMillis 100

def defaultMaxDelay : Span := Span.ofMillis 2000

def standard : RetryPolicy :=
  of defaultAttempts defaultBaseDelay defaultMaxDelay

/-- The greatest pause after an attempt, where the first attempt counts 1.
The doubling ends with the seventeenth. -/
def ceiling (policy : RetryPolicy) (attempt : Nat) : Span :=
  (policy.baseDelay.mul (Nat.pow 2 (Nat.min (attempt - 1) 16))).min policy.maxDelay

/-- The greatest draw for the pause after an attempt: the nanoseconds above
half of the ceiling, as far as a 64-bit word holds them. -/
def spread (policy : RetryPolicy) (attempt : Nat) : Nat :=
  let ceiling := policy.ceiling attempt
  (ceiling.sub ceiling.half).toNanos % UInt64.size

/-- The pause after an attempt, for a draw of nanoseconds. -/
def backoff (policy : RetryPolicy) (attempt : Nat)
    (draw : Fin (policy.spread attempt + 1)) : Span :=
  (policy.ceiling attempt).half.add (Span.ofNanos draw)

/-- The pauses that may follow an attempt. -/
def Allows (policy : RetryPolicy) (attempt : Nat) (pause : Span) : Prop :=
  (policy.ceiling attempt).half.atMost pause ∧ pause.atMost (policy.ceiling attempt)

instance (policy : RetryPolicy) (attempt : Nat) (pause : Span) :
    Decidable (policy.Allows attempt pause) :=
  inferInstanceAs (Decidable (_ ∧ _))

end RetryPolicy

end Pacing
