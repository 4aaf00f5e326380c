import Pacing.Seconds
import Pacing.Span

/-!
# Clocks that are set by hand

A clock that moves only when it is told to.  Advancing it wraps around at the
ends of the 64-bit word; a sleep is recorded and advances it by the whole
seconds of the span.
-/

namespace Pacing

structure ManualClock where
  now : Int64
  /-- The sleeps so far, the first one first. -/
  sleeps : List Span
  deriving DecidableEq, Repr

namespace ManualClock

/-- A clock that shows a given time and has not slept. -/
def starting (now : Int64) : ManualClock := ⟨now, []⟩

def set (clock : ManualClock) (now : Int64) : ManualClock :=
  { clock with now }

def advance (clock : ManualClock) (seconds : Int64) : ManualClock :=
  { clock with now := clock.now + seconds }

def sleep (clock : ManualClock) (span : Span) : ManualClock :=
  { (clock.advance (Seconds.clamp span.seconds.toNat)) with sleeps := clock.sleeps ++ [span] }

end ManualClock

end Pacing
