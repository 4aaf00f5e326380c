import Pacing.Handling.Attempt
import Pacing.Retry

/-!
# Commits

Attempts are repeated until one commits.  Each of them starts from a fresh
clock reading and a fresh read, since the plan depends on both; between two
attempts there is a pause that the retry policy allows.
-/

namespace Pacing

/-- Under which terms requests are handled. -/
structure Terms where
  waitThreshold : UInt64
  retry : RetryPolicy
  /-- Whether delays are recorded. -/
  records : Bool
  deriving DecidableEq, Repr

/-- A committed time, and the number of attempts that it took. -/
structure Slot where
  plannedAt : Int64
  attempts : Nat
  deriving DecidableEq, Repr

namespace Handling

/-- Sleeps for a pause that may follow an attempt. -/
def pause (retry : RetryPolicy) (attempt : Nat) : Handling Unit := do
  let draw ← ask (.draw (retry.spread attempt))
  ask (.sleep (retry.backoff attempt draw))

/-- The attempts from a given one on, as long as some remain. -/
def commitFrom (terms : Terms) (key : ScopeKey) :
    (remaining number : Nat) → Handling (Except SchedulerError Slot)
  | 0, _ => return .error (.retriesExhausted terms.retry.maxAttempts)
  | remaining + 1, number => do
    let now ← ask .now
    match ← attempt key terms.waitThreshold now with
    | .error error => return .error error
    | .ok decision =>
      match decision.outcome with
      | .committed => return .ok ⟨decision.plannedAt, number⟩
      | .conflict =>
        tell (.writeLost key number terms.retry.maxAttempts decision.previous)
        if remaining ≠ 0 then pause terms.retry number
        commitFrom terms key remaining (number + 1)

/-- Commits the next execution of a scope. -/
def commit (terms : Terms) (key : ScopeKey) : Handling (Except SchedulerError Slot) :=
  commitFrom terms key terms.retry.maxAttempts.toNat 1

end Handling

end Pacing
