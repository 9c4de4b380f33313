import RecordService.Write.Options
import Mathlib.Algebra.Order.Group.Nat
import Mathlib.Order.Monotone.Basic

namespace RecordService.WriteOptions

/-!
# Waits between attempts

The factor of a wait is cut to 32 bits, the wait itself to the longest duration and then to the
longest delay. Only the last of these cuts shows: the others are reached by waits that are too long
anyway, so a wait is what it would be in exact numbers, up to the longest delay.

* `growth_eq_min`: the factor is a power of two up to a bound.
* `min_mul_min`: the bound of a factor does not show in a product that is cut below that bound.
* `exactDelay`: the wait in exact numbers, without a limit.
* `retryDelay_exact`: the wait is the exact one up to the longest delay, and it never gets shorter.
-/

/-! ### Cuts -/

/-- The factor is a power of two, cut to the largest number of 32 bits. -/
theorem growth_eq_min (doublings : Nat) : growth doublings = min (2 ^ doublings) (2 ^ 32 - 1) := by
  unfold growth
  split
  · have hpower : 2 ^ doublings ≤ 2 ^ 31 := Nat.pow_le_pow_right (by decide) (by omega)
    omega
  · have hpower : 2 ^ 32 ≤ 2 ^ doublings := Nat.pow_le_pow_right (by decide) (by omega)
    omega

/-- A factor that is cut makes no difference where the product is cut sooner. -/
theorem min_mul_min {wait factor bound limit : Nat} (h : limit ≤ bound) :
    min (wait * min factor bound) limit = min (wait * factor) limit := by
  cases wait with
  -- a wait of zero stays zero, so its product with the bound is not beyond the limit
  | zero => rw [Nat.zero_mul, Nat.zero_mul]
  | succ wait =>
    have hlimit : limit ≤ (wait + 1) * bound :=
      Nat.le_trans h (Nat.le_mul_of_pos_left bound (Nat.succ_pos wait))
    calc min ((wait + 1) * min factor bound) limit
        = min (min ((wait + 1) * factor) ((wait + 1) * bound)) limit := by
          rw [Nat.mul_min_mul_left]
      _ = min ((wait + 1) * factor) limit := by rw [Nat.min_assoc, Nat.min_eq_right hlimit]

/-! ### Waits -/

/-- The wait after an attempt in exact numbers, however long it is. -/
def exactDelay (o : WriteOptions) (attempt : Nat) : Nat :=
  match o.backoff with
  | .fixed => o.initialDelay
  | .exponential => o.initialDelay * 2 ^ (attempt - 1)

/-- Exact waits stay the same or double. -/
theorem exactDelay_monotone (o : WriteOptions) : Monotone o.exactDelay := by
  intro attempt later h
  unfold exactDelay
  cases o.backoff with
  | fixed => exact Nat.le_refl _
  | exponential =>
    exact Nat.mul_le_mul_left _ (Nat.pow_le_pow_right (by decide) (Nat.sub_le_sub_right h 1))

/-- The longest duration and the largest factor are beyond the longest delay. -/
theorem retryDelay_eq_min (o : WriteOptions) (attempt : Nat) :
    o.retryDelay attempt = min (o.exactDelay attempt) longestDelay := by
  unfold retryDelay exactDelay
  cases o.backoff with
  | fixed => rfl
  | exponential =>
    have hduration : longestDelay ≤ longestDuration := by decide
    -- even a single millisecond times the largest factor is longer than the longest delay
    have hfactor : longestDelay ≤ 2 ^ 32 - 1 := by decide
    dsimp only
    rw [Nat.min_assoc, Nat.min_eq_right hduration, growth_eq_min, min_mul_min hfactor]

/-- **Waits.** Whatever the first wait is, the wait after an attempt is the exact one up to the
longest delay. So it never gets shorter from one attempt to the next, and never longer than that. -/
theorem retryDelay_exact (o : WriteOptions) :
    (∀ attempt, o.retryDelay attempt = min (o.exactDelay attempt) longestDelay) ∧
      Monotone o.retryDelay ∧ ∀ attempt, o.retryDelay attempt ≤ longestDelay := by
  refine ⟨o.retryDelay_eq_min, fun attempt later h => ?_, fun attempt => ?_⟩
  · rw [retryDelay_eq_min, retryDelay_eq_min]
    exact min_le_min_right longestDelay (o.exactDelay_monotone h)
  · rw [retryDelay_eq_min]
    exact Nat.min_le_right _ _

/-- A single millisecond has grown to the longest delay long before its factor is cut. -/
example : [1, 19, 20, 33, 100].map
    { standard with initialDelay := 1, backoff := .exponential }.retryDelay =
      [1, 262144, 300000, 300000, 300000] := by decide

end RecordService.WriteOptions
