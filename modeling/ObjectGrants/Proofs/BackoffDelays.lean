import Mathlib.Algebra.Ring.Nat
import Mathlib.Order.Monotone.Basic
import ObjectGrants.Retry

/-! The pauses of a policy in exact numbers. The arithmetic on spans has bounds, but a bound is
only reached where the pause is cut to the longest delay of the policy anyway, so it never shows.
-/

namespace ObjectGrants

-----------------------------------------------------------------------------------------
-- Bounds that do not show
-----------------------------------------------------------------------------------------

namespace Span

/-- As many doublings as a pause has at most fit into 32 bits. -/
theorem doublings_of_le {exponent : Nat} (few : exponent ≤ 16)
    : doublings exponent = 2 ^ exponent := by
  have bound : 2 ^ exponent ≤ 2 ^ 16 := Nat.pow_le_pow_right (by decide) few
  exact Nat.min_eq_left (Nat.le_trans bound (by decide))

/-- A multiple that is cut to a limit may be cut to the longest span before. -/
theorem min_scale {limit : Nat} (within : limit ≤ longest) (span factor : Nat)
    : min (scale span factor) limit = min (span * factor) limit := by
  rw [scale, Nat.min_assoc, Nat.min_eq_right within]

end Span

namespace RetryPolicy

/-- A policy whose longest delay is a span pauses for the doubled delay, cut to the longest. -/
theorem backoff_of_within {policy : RetryPolicy} (within : policy.maxDelay ≤ Span.longest)
    (retry : Nat)
    : policy.backoff retry = min (policy.baseDelay * 2 ^ min retry 16) policy.maxDelay := by
  rw [backoff, Span.doublings_of_le (Nat.min_le_right retry 16), Span.min_scale within]

/-- The delays of settings are 64-bit numbers of milliseconds, and so no longer than a span. -/
theorem ofSettings_within (settings : RetrySettings) (transientCodes : List String)
    : (ofSettings settings transientCodes).maxDelay ≤ Span.longest := by
  have bound : settings.maxDelayMs.toNat < UInt64.size := settings.maxDelayMs.toNat_lt_size
  change settings.maxDelayMs.toNat ≤ (UInt64.size - 1) * 1000 + 999
  omega

-----------------------------------------------------------------------------------------
-- Doubling
-----------------------------------------------------------------------------------------

/-- The sixteenth doubling being the last one makes a difference only behind it, only below the
limit, and only where there is something to double.
-/
theorem min_doubled_eq_iff {base limit retry : Nat}
    : min (base * 2 ^ min retry 16) limit = min (base * 2 ^ retry) limit
      ↔ retry ≤ 16 ∨ limit ≤ base * 2 ^ 16 ∨ base = 0 := by
  rcases Nat.lt_or_ge 16 retry with many | few
  · rcases Nat.eq_zero_or_pos base with rfl | positive
    · simp only [Nat.zero_mul, or_true]
    · have further : base * 2 ^ 17 ≤ base * 2 ^ retry :=
        Nat.mul_le_mul_left base (Nat.pow_le_pow_right (by decide) many)
      rw [Nat.min_eq_right (Nat.le_of_lt many)]
      omega
  · simp only [Nat.min_eq_left few, few, true_or]

/-- A pause is the first delay doubled once for every repetition before, up to sixteen times, and
cut to the longest delay, without an effect of the bounds of spans. Hence it is never longer
than that delay and never shorter than the pause before, and it is known exactly when it has
not been doubled as often as there were repetitions.
-/
theorem backoff_exact (settings : RetrySettings) (transientCodes : List String) (retry : Nat)
    : let pause := (ofSettings settings transientCodes).backoff
      let base := settings.baseDelayMs.toNat
      let limit := settings.maxDelayMs.toNat
      pause retry = min (base * 2 ^ min retry 16) limit
      ∧ pause retry ≤ limit
      ∧ Monotone pause
      ∧ (pause retry = min (base * 2 ^ retry) limit
        ↔ retry ≤ 16 ∨ limit ≤ base * 2 ^ 16 ∨ base = 0) := by
  intro pause base limit
  have exact (retry : Nat) : pause retry = min (base * 2 ^ min retry 16) limit :=
    backoff_of_within (ofSettings_within settings transientCodes) retry
  refine ⟨exact retry, ?_, ?_, ?_⟩
  · rw [exact]
    exact Nat.min_le_right _ limit
  · intro early late le
    have doubled : 2 ^ min early 16 ≤ 2 ^ min late 16 :=
      Nat.pow_le_pow_right (by decide) (by omega)
    have further := Nat.mul_le_mul_left base doubled
    rw [exact, exact]
    omega
  · rw [exact]
    exact min_doubled_eq_iff

/-- From one millisecond on, the pause behind the sixteenth doubling stays where it is. -/
example
    : let policy := ofSettings { baseDelayMs := 1, maxDelayMs := 100000 } []
      [0, 3, 16, 17, 40].map policy.backoff = [1, 8, 65536, 65536, 65536] := by
  decide

end RetryPolicy

end ObjectGrants
