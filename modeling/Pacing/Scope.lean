import Pacing.Failure
import Pacing.Text.Blank

/-!
# Scopes

The identity of a scope whose remediations are spaced: an account and a region
joined by a hyphen.
-/

namespace Pacing

structure ScopeKey where
  text : String
  deriving DecidableEq, Repr

namespace ScopeKey

/-- The key of an account and a region, both trimmed; neither may be blank. -/
def ofNames (account region : String) : Except SchedulerError ScopeKey :=
  if Text.isBlank account then
    .error (.malformedRequest "AccountId cannot be empty")
  else if Text.isBlank region then
    .error (.malformedRequest "ResourceRegion cannot be empty")
  else
    .ok ⟨Text.trim account ++ "-" ++ Text.trim region⟩

/-- Keys are ordered by the code points of their texts. -/
def precedesOrEquals (left right : ScopeKey) : Bool :=
  !(right.text < left.text)

/-- The keys in rising order, each of them once. -/
def sorted (keys : List ScopeKey) : List ScopeKey :=
  (keys.mergeSort precedesOrEquals).eraseReps

end ScopeKey

end Pacing
