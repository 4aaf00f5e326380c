import Mathlib.Order.Monotone.Defs
import Mathlib.Tactic.Ring
import Pacing.Retry

/-!
# Lengths of pauses

The operations on spans of time are the ones on their lengths in nanoseconds,
as long as the length of the outcome is that of a span.  With that the pause
after an attempt is seen to lie between half of the ceiling and the ceiling,
whatever is drawn: nothing is cut off on the way, since half of the ceiling and
the rest make up the ceiling.
-/

namespace Pacing

namespace Span

theorem atMost_iff (left right : Span) :
    left.atMost right = true ↔ left.toNanos ≤ right.toNanos := by
  have below := left.nanos_lt
  have beside := right.nanos_lt
  unfold atMost toNanos
  rw [Bool.or_eq_true, Bool.and_eq_true, decide_eq_true_iff, beq_iff_eq,
    decide_eq_true_iff, UInt64.lt_iff_toNat_lt, ← UInt64.toNat_inj]
  unfold nanosInSecond at *
  omega

/-- A span is known by its length. -/
theorem toNanos_injective : Function.Injective toNanos := by
  rintro ⟨seconds, nanos, below⟩ ⟨others, rest, beside⟩ same
  change seconds.toNat * nanosInSecond + nanos = others.toNat * nanosInSecond + rest at same
  unfold nanosInSecond at *
  obtain rfl : seconds = others := UInt64.toNat_inj.mp (by omega)
  obtain rfl : nanos = rest := by omega
  rfl

theorem toNanos_le_greatest (span : Span) : span.toNanos ≤ greatest.toNanos := by
  have seconds := span.seconds.toNat_lt_size
  have nanos := span.nanos_lt
  have whole : greatest.toNanos + 1 = UInt64.size * nanosInSecond := rfl
  unfold toNanos at *
  unfold nanosInSecond at *
  omega

/-- A length that some span reaches is carried without a loss. -/
theorem toNanos_carry {seconds nanos : Nat} {bound : Span}
    (fits : seconds * nanosInSecond + nanos ≤ bound.toNanos) :
    (carry seconds nanos).toNanos = seconds * nanosInSecond + nanos := by
  have whole := Nat.div_add_mod nanos nanosInSecond
  have within : seconds + nanos / nanosInSecond < UInt64.size := by
    have seconds := bound.seconds.toNat_lt_size
    have nanos := bound.nanos_lt
    unfold toNanos at fits
    unfold nanosInSecond at *
    omega
  have word : (UInt64.ofNat (seconds + nanos / nanosInSecond)).toNat =
      seconds + nanos / nanosInSecond :=
    UInt64.toNat_ofNat_of_lt' within
  have split : (seconds + nanos / nanosInSecond) * nanosInSecond +
      nanos % nanosInSecond = seconds * nanosInSecond + nanos := by
    unfold nanosInSecond at *
    omega
  unfold carry
  dsimp only
  rw [if_pos within]
  unfold toNanos
  rw [word, split]

/-- A length that no span reaches is cut to that of the greatest span. -/
theorem toNanos_carry_eq_min (seconds nanos : Nat) :
    (carry seconds nanos).toNanos =
      Min.min (seconds * nanosInSecond + nanos) greatest.toNanos := by
  by_cases fits : seconds * nanosInSecond + nanos ≤ greatest.toNanos
  · rw [toNanos_carry fits, Nat.min_def, if_pos fits]
  · have whole : greatest.toNanos + 1 = UInt64.size * nanosInSecond := rfl
    have exceeds : ¬ seconds + nanos / nanosInSecond < UInt64.size := by
      unfold nanosInSecond at *
      omega
    unfold carry
    dsimp only
    rw [if_neg exceeds, Nat.min_def, if_neg fits]

theorem toNanos_ofMillis (millis : UInt64) :
    (ofMillis millis).toNanos = millis.toNat * 1000000 := by
  have word := millis.toNat_lt_size
  have whole : greatest.toNanos + 1 = UInt64.size * nanosInSecond := rfl
  have length : millis.toNat / 1000 * nanosInSecond + millis.toNat % 1000 * 1000000 =
      millis.toNat * 1000000 := by
    unfold nanosInSecond
    omega
  have fits : millis.toNat * 1000000 ≤ greatest.toNanos := by
    unfold nanosInSecond at whole
    omega
  unfold ofMillis
  rw [toNanos_carry (length.symm ▸ fits), length]

theorem toNanos_mul (span : Span) (factor : Nat) :
    (span.mul factor).toNanos = Min.min (span.toNanos * factor) greatest.toNanos := by
  have length : span.seconds.toNat * factor * nanosInSecond + span.nanos * factor =
      span.toNanos * factor := by
    unfold toNanos
    ring
  unfold mul
  rw [toNanos_carry_eq_min, length]

theorem toNanos_min (left right : Span) :
    (left.min right).toNanos = Min.min left.toNanos right.toNanos := by
  unfold Span.min
  by_cases notAfter : left.toNanos ≤ right.toNanos
  · rw [if_pos ((atMost_iff left right).mpr notAfter), Nat.min_def, if_pos notAfter]
  · rw [if_neg (mt (atMost_iff left right).mp notAfter), Nat.min_def, if_neg notAfter]

theorem toNanos_max (left right : Span) :
    (left.max right).toNanos = Max.max left.toNanos right.toNanos := by
  unfold Span.max
  by_cases notAfter : left.toNanos ≤ right.toNanos
  · rw [if_pos ((atMost_iff left right).mpr notAfter), Nat.max_def, if_pos notAfter]
  · rw [if_neg (mt (atMost_iff left right).mp notAfter), Nat.max_def, if_neg notAfter]

theorem toNanos_ofNanos {nanos : Nat} {bound : Span} (fits : nanos ≤ bound.toNanos) :
    (ofNanos nanos).toNanos = nanos := by
  have length : 0 * nanosInSecond + nanos = nanos := by
    omega
  unfold ofNanos
  rw [toNanos_carry (length.symm ▸ fits), length]

theorem toNanos_add {left right bound : Span}
    (fits : left.toNanos + right.toNanos ≤ bound.toNanos) :
    (left.add right).toNanos = left.toNanos + right.toNanos := by
  have length : (left.seconds.toNat + right.seconds.toNat) * nanosInSecond +
      (left.nanos + right.nanos) = left.toNanos + right.toNanos := by
    unfold toNanos nanosInSecond
    omega
  unfold add
  rw [toNanos_carry (length.symm ▸ fits), length]

/-- Spans whose lengths add up to that of a span have a sum. -/
theorem add?_eq_some {left right bound : Span}
    (fits : left.toNanos + right.toNanos ≤ bound.toNanos) :
    left.add? right = some (left.add right) := by
  have within : left.seconds.toNat + right.seconds.toNat +
      (left.nanos + right.nanos) / nanosInSecond < UInt64.size := by
    have seconds := bound.seconds.toNat_lt_size
    have nanos := bound.nanos_lt
    unfold toNanos at fits
    unfold nanosInSecond at *
    omega
  exact if_pos within

theorem toNanos_half (span : Span) : span.half.toNanos = span.toNanos / 2 := by
  have length : span.seconds.toNat / 2 * nanosInSecond +
      (span.seconds.toNat % 2 * nanosInSecond + span.nanos) / 2 =
        span.toNanos / 2 := by
    unfold toNanos nanosInSecond
    omega
  unfold half
  rw [toNanos_carry (length.symm ▸ Nat.div_le_self span.toNanos 2), length]

theorem toNanos_sub (left right : Span) :
    (left.sub right).toNanos = left.toNanos - right.toNanos := by
  have below := left.nanos_lt
  have beside := right.nanos_lt
  have nothing : zero.toNanos = 0 := by
    decide
  have less := Nat.sub_le left.toNanos right.toNanos
  unfold sub
  simp only [UInt64.le_iff_toNat_le, UInt64.lt_iff_toNat_lt]
  split
  · split
    · have length : (left.seconds.toNat - right.seconds.toNat) * nanosInSecond +
          (left.nanos - right.nanos) = left.toNanos - right.toNanos := by
        unfold toNanos nanosInSecond
        omega
      rw [toNanos_carry (length.symm ▸ less), length]
    · rw [nothing]
      unfold toNanos
      unfold nanosInSecond at *
      omega
  · split
    · have length : (left.seconds.toNat - right.seconds.toNat - 1) * nanosInSecond +
          (left.nanos + nanosInSecond - right.nanos) =
            left.toNanos - right.toNanos := by
        unfold toNanos
        unfold nanosInSecond at *
        omega
      rw [toNanos_carry (length.symm ▸ less), length]
    · rw [nothing]
      unfold toNanos
      unfold nanosInSecond at *
      omega

end Span

namespace RetryPolicy

/-- A policy allows at least one attempt, whatever is asked for. -/
theorem maxAttempts_pos (attempts : UInt32) (base longest : Span) :
    0 < (RetryPolicy.of attempts base longest).maxAttempts.toNat := by
  unfold RetryPolicy.of
  dsimp only
  split
  · exact Nat.zero_lt_one
  · next some =>
      exact Nat.pos_of_ne_zero fun none => some (UInt32.toNat_inj.mp none)

section Draws

variable (policy : RetryPolicy) (attempt : Nat)

/-- A draw reaches at most from half of the ceiling to the ceiling. -/
theorem half_add_spread_le :
    (policy.ceiling attempt).half.toNanos + policy.spread attempt ≤
      (policy.ceiling attempt).toNanos := by
  have drawn : policy.spread attempt ≤
      ((policy.ceiling attempt).sub (policy.ceiling attempt).half).toNanos :=
    Nat.mod_le _ _
  rw [Span.toNanos_sub] at drawn
  have half := Span.toNanos_half (policy.ceiling attempt)
  omega

variable (draw : Fin (policy.spread attempt + 1))

theorem toNanos_draw : (Span.ofNanos draw).toNanos = draw := by
  have reach := policy.half_add_spread_le attempt
  have drawn := draw.isLt
  exact Span.toNanos_ofNanos (show draw.val ≤ (policy.ceiling attempt).toNanos by omega)

theorem half_add_draw_le :
    (policy.ceiling attempt).half.toNanos + (Span.ofNanos draw).toNanos ≤
      (policy.ceiling attempt).toNanos := by
  have reach := policy.half_add_spread_le attempt
  have drawn := draw.isLt
  rw [toNanos_draw]
  omega

/-- The pause is as long as half of the ceiling and the draw together. -/
theorem toNanos_backoff :
    (policy.backoff attempt draw).toNanos =
      (policy.ceiling attempt).half.toNanos + draw := by
  unfold backoff
  rw [Span.toNanos_add (policy.half_add_draw_le attempt draw), toNanos_draw]

/-- The pause after an attempt is one that may follow it, for every draw. -/
theorem backoff_allowed :
    policy.Allows attempt (policy.backoff attempt draw) := by
  have reach := policy.half_add_spread_le attempt
  have length := policy.toNanos_backoff attempt draw
  have drawn := draw.isLt
  constructor
  · rw [Span.atMost_iff]
    omega
  · rw [Span.atMost_iff]
    omega

theorem toNanos_spread :
    policy.spread attempt =
      ((policy.ceiling attempt).toNanos - (policy.ceiling attempt).toNanos / 2) % 2 ^ 64 := by
  rw [← Span.toNanos_half, ← Span.toNanos_sub]
  rfl

end Draws

/-! ## Ceilings -/

section Ceilings

variable (maxAttempts : UInt32) (base longest : Span) (attempt : Nat)

/-- A length that the doubling would take beyond the greatest span is cut twice, to that
span and then to the maximum, which is not longer. -/
theorem toNanos_ceiling :
    ((RetryPolicy.of maxAttempts base longest).ceiling attempt).toNanos =
      min (base.toNanos * 2 ^ min (max attempt 1 - 1) 16)
        (max base.toNanos longest.toNanos) := by
  have doublings : Nat.min (attempt - 1) 16 = min (max attempt 1 - 1) 16 := by
    change min (attempt - 1) 16 = _
    omega
  have maximum : (longest.max base).toNanos = max longest.toNanos base.toNanos :=
    Span.toNanos_max longest base
  have reachable := Span.toNanos_le_greatest (longest.max base)
  unfold ceiling
  rw [Span.toNanos_min, Span.toNanos_mul, doublings]
  change min (min (base.toNanos * 2 ^ _) _) (longest.max base).toNanos = _
  generalize base.toNanos * 2 ^ min (max attempt 1 - 1) 16 = doubled
  omega

theorem allows_iff (pause : Span) :
    (RetryPolicy.of maxAttempts base longest).Allows attempt pause ↔
      min (base.toNanos * 2 ^ min (max attempt 1 - 1) 16)
          (max base.toNanos longest.toNanos) / 2 ≤ pause.toNanos ∧
        pause.toNanos ≤ min (base.toNanos * 2 ^ min (max attempt 1 - 1) 16)
          (max base.toNanos longest.toNanos) := by
  unfold Allows
  rw [Span.atMost_iff, Span.atMost_iff, Span.toNanos_half, toNanos_ceiling]

theorem ceiling_mono :
    Monotone fun attempt =>
      ((RetryPolicy.of maxAttempts base longest).ceiling attempt).toNanos := by
  intro attempt later notAfter
  have doublings : 2 ^ min (max attempt 1 - 1) 16 ≤ 2 ^ min (max later 1 - 1) 16 :=
    Nat.pow_le_pow_right (by decide) (by omega)
  have doubled := Nat.mul_le_mul_left base.toNanos doublings
  dsimp only
  rw [toNanos_ceiling, toNanos_ceiling]
  exact min_le_min_right _ doubled

theorem base_le_ceiling :
    base.toNanos ≤ ((RetryPolicy.of maxAttempts base longest).ceiling attempt).toNanos := by
  have doubled : base.toNanos ≤ base.toNanos * 2 ^ min (max attempt 1 - 1) 16 :=
    Nat.le_mul_of_pos_right _ (Nat.pow_pos (by decide))
  rw [toNanos_ceiling]
  exact le_min doubled (le_max_left _ _)

end Ceilings

/-- The ceiling doubles from the base delay on with each attempt, sixteen times at most and
up to the maximum, which is at least the base delay.  The pause is half of it and the draw
together, whatever is drawn, also where the draw is cut to a word: their sum is a span, and
it lies between half of the ceiling and the ceiling. -/
theorem pauses_bounded (maxAttempts : UInt32) (base longest : Span) (attempt : Nat) :
    let policy := RetryPolicy.of maxAttempts base longest
    let ceiling := policy.ceiling attempt
    ceiling.toNanos =
      min (base.toNanos * 2 ^ min (max attempt 1 - 1) 16) (max base.toNanos longest.toNanos) ∧
    (Monotone fun attempt => (policy.ceiling attempt).toNanos) ∧
    base.toNanos ≤ ceiling.toNanos ∧ ceiling.toNanos ≤ max base.toNanos longest.toNanos ∧
    policy.spread attempt = (ceiling.toNanos - ceiling.toNanos / 2) % 2 ^ 64 ∧
    ∀ draw : Fin (policy.spread attempt + 1),
      ceiling.half.add? (Span.ofNanos draw) = some (policy.backoff attempt draw) ∧
      (policy.backoff attempt draw).toNanos = ceiling.toNanos / 2 + draw ∧
      ceiling.toNanos / 2 ≤ (policy.backoff attempt draw).toNanos ∧
      (policy.backoff attempt draw).toNanos ≤ ceiling.toNanos := by
  intro policy ceiling
  have closed : ceiling.toNanos = min (base.toNanos * 2 ^ min (max attempt 1 - 1) 16)
      (max base.toNanos longest.toNanos) := toNanos_ceiling maxAttempts base longest attempt
  have notAbove : ceiling.toNanos ≤ max base.toNanos longest.toNanos :=
    closed.trans_le (min_le_right _ _)
  refine ⟨closed, ceiling_mono maxAttempts base longest,
    base_le_ceiling maxAttempts base longest attempt, notAbove,
    policy.toNanos_spread attempt, ?_⟩
  intro draw
  have fits : ceiling.half.toNanos + (Span.ofNanos draw).toNanos ≤ ceiling.toNanos :=
    policy.half_add_draw_le attempt draw
  have length : (policy.backoff attempt draw).toNanos = ceiling.half.toNanos + draw :=
    policy.toNanos_backoff attempt draw
  rw [policy.toNanos_draw attempt draw, Span.toNanos_half] at fits
  rw [Span.toNanos_half] at length
  rw [length]
  exact ⟨Span.add?_eq_some (policy.half_add_draw_le attempt draw), rfl, Nat.le_add_right _ _,
    fits⟩

/-- Nothing is left to chance at the longest ceiling: its upper half is a multiple of what a
word holds. -/
example : (RetryPolicy.of 1 .greatest .greatest).spread 1 = 0 := by decide

end RetryPolicy

end Pacing
