import Mathlib.Algebra.Order.Ring.Rat
import Mathlib.Algebra.Order.Field.Basic
import Mathlib.Tactic.FieldSimp
import Mathlib.Tactic.Ring
import RecordService.Number.Binary64

namespace RecordService.Binary64

/-!
# The value of a double

A finite double is a rational number. Its integral part and the test for being whole are about that
number, and an integer of 64 bits without sign stays beyond the bound of those with a sign when it
is rounded to a double.

* `value`: the rational number.
* `isWhole_iff`, `value_eq_truncate`: doubles whose value is an integer.
* `toInt64_of_value`: a whole double in 64 bits is the nearest integer in range.
* `value_ofInt`: the integers between `2 ^ 63` and `2 ^ 64` as doubles.
-/

/-- The value of a finite number. -/
def value (x : Binary64) : ℚ :=
  (if x.negative then -1 else 1) * (x.mantissa * 2 ^ x.exponent)

/-! ### Whole numbers -/

theorem ratio_pos (x : Binary64) : 0 < x.ratio.2 := by
  rw [ratio]
  split
  · exact Nat.one_pos
  · exact Nat.two_pow_pos _

/-- The magnitude of a number is its ratio. -/
theorem value_eq_ratio (x : Binary64) :
    x.value = (if x.negative then -1 else 1) * ((x.ratio.1 : ℚ) / x.ratio.2) := by
  rw [value, ratio]
  congr 1
  split
  · rename_i hexponent
    have hpower : (2 : ℚ) ^ x.exponent = 2 ^ x.exponent.toNat := by
      rw [← zpow_natCast, Int.toNat_of_nonneg hexponent]
    rw [hpower]
    push_cast
    ring
  · rename_i hexponent
    have hpower : (2 : ℚ) ^ x.exponent = (2 ^ (-x.exponent).toNat)⁻¹ := by
      rw [← zpow_natCast, Int.toNat_of_nonneg (by omega), zpow_neg, inv_inv]
    rw [hpower]
    push_cast
    ring

/-- A ratio of natural numbers is an integer if nothing is left by the division. -/
theorem exists_ratio_eq_iff {num den : Nat} (hden : 0 < den) :
    (∃ n : Int, (num : ℚ) / den = n) ↔ num % den = 0 := by
  have hne : (den : ℚ) ≠ 0 := by exact_mod_cast hden.ne'
  constructor
  · rintro ⟨n, hn⟩
    rw [div_eq_iff hne] at hn
    have hproduct : (num : Int) = n * den := by exact_mod_cast hn
    exact Nat.mod_eq_zero_of_dvd (Int.natCast_dvd_natCast.1 ⟨n, by rw [hproduct, Int.mul_comm]⟩)
  · intro hrest
    obtain ⟨k, rfl⟩ := Nat.dvd_of_mod_eq_zero hrest
    refine ⟨k, ?_⟩
    rw [div_eq_iff hne]
    push_cast
    ring

/-- A whole number is its integral part. -/
theorem value_eq_truncate {x : Binary64} (h : x.isWhole = true) : x.value = x.truncate := by
  rw [isWhole, Bool.and_eq_true, beq_iff_eq] at h
  obtain ⟨k, hk⟩ := Nat.dvd_of_mod_eq_zero h.2
  have hden : (x.ratio.2 : ℚ) ≠ 0 := by exact_mod_cast x.ratio_pos.ne'
  have hquotient : x.ratio.1 / x.ratio.2 = k := by rw [hk, Nat.mul_div_cancel_left _ x.ratio_pos]
  have hratio : (x.ratio.1 : ℚ) / x.ratio.2 = k := by
    rw [hk, div_eq_iff hden]
    push_cast
    ring
  rw [value_eq_ratio, hratio, truncate]
  dsimp only
  rw [hquotient]
  split <;> simp

/-- A finite number is whole if its value is an integer. -/
theorem isWhole_iff {x : Binary64} (hx : x.isFinite = true) :
    x.isWhole = true ↔ ∃ n : Int, x.value = n := by
  refine ⟨fun h => ⟨x.truncate, value_eq_truncate h⟩, ?_⟩
  rintro ⟨n, hn⟩
  have hratio : ∃ m : Int, (x.ratio.1 : ℚ) / x.ratio.2 = m := by
    rw [value_eq_ratio] at hn
    split at hn
    · refine ⟨-n, ?_⟩
      rw [Int.cast_neg, ← hn, neg_mul, one_mul, neg_neg]
    · exact ⟨n, by rw [← hn, one_mul]⟩
  rw [isWhole, hx, Bool.true_and, beq_iff_eq]
  exact (exists_ratio_eq_iff x.ratio_pos).1 hratio

/-! ### Integers of 64 bits -/

/-- The integer of 64 bits that is nearest to an integer. -/
def clamp64 (n : Int) : Int :=
  max (-2 ^ 63) (min n (2 ^ 63 - 1))

/-- Integers of 64 bits are those that are not cut. -/
theorem clamp64_eq_self_iff {n : Int} : clamp64 n = n ↔ ¬(n < -2 ^ 63 ∨ 2 ^ 63 ≤ n) := by
  rw [clamp64]
  omega

/-- A whole number is cut to the nearest integer of 64 bits. -/
theorem toInt64_of_value {x : Binary64} {n : Int} (hx : x.isFinite = true) (h : x.value = n) :
    x.toInt64 = clamp64 n := by
  have hnumber : x.isNaN = false := by
    rw [isFinite, bne_iff_ne] at hx
    rw [isNaN, beq_false_of_ne hx, Bool.false_and]
  have htruncate : x.truncate = n := by
    have hvalue := value_eq_truncate ((isWhole_iff hx).2 ⟨n, h⟩)
    exact_mod_cast hvalue.symm.trans h
  rw [toInt64, hnumber, if_neg Bool.false_ne_true, if_pos hx, htruncate, clamp64]

/-! ### Integers without sign -/

/-- Rounding a ratio gives its floor or the integer above. -/
theorem roundHalfEven_mem (num den : Nat) :
    roundHalfEven num den = num / den ∨ roundHalfEven num den = num / den + 1 := by
  simp only [roundHalfEven]
  split
  · exact .inl rfl
  · split
    · exact .inr rfl
    · omega

/-- The double of an integer from `2 ^ 63` on has the mantissa that is left of its first 53 bits. -/
theorem ofInt_eq_ofBits {n : Int} (hlow : 2 ^ 63 ≤ n) (hhigh : n < 2 ^ 64) :
    ∃ m, 2 ^ 52 ≤ m ∧ m ≤ 2 ^ 53 ∧ ofInt n = ofBits false (1085 * 2 ^ 52 + m) := by
  obtain ⟨k, rfl⟩ := Int.eq_ofNat_of_zero_le (show 0 ≤ n by omega)
  have hk : 2 ^ 63 ≤ k ∧ k < 2 ^ 64 := by omega
  have hlog : k.log2 = 63 := (Nat.log2_eq_iff (by omega)).2 hk
  have hexponent : exponentFor k 1 = 11 := by
    have hone : Nat.log2 1 = 0 := by decide
    simp [exponentFor, hlog, hone, hk.1]
  have hround := roundHalfEven_mem k (2 ^ 11)
  refine ⟨roundHalfEven k (2 ^ 11), by omega, by omega, ?_⟩
  have hsign : decide ((k : Int) < 0) = false := decide_eq_false (by omega)
  rw [ofInt, hsign, Int.natAbs_natCast, ofRatio, if_neg (by omega), hexponent]
  dsimp only
  rw [if_pos (by decide), Nat.min_eq_left]
  · rfl
  · rw [infinityBits]
    simp only [Nat.one_mul]
    show 1085 * 2 ^ 52 + roundHalfEven k (2 ^ 11) ≤ _
    omega

/-- A mantissa that is rounded up to `2 ^ 53` carries into the exponent, with the same value. -/
theorem value_ofBits {m : Nat} (hlow : 2 ^ 52 ≤ m) (hhigh : m ≤ 2 ^ 53) :
    (ofBits false (1085 * 2 ^ 52 + m)).isFinite = true ∧
      (ofBits false (1085 * 2 ^ 52 + m)).value = (m * 2 ^ 11 : Nat) := by
  have hbits : (ofBits false (1085 * 2 ^ 52 + m)).bits.toNat = 1085 * 2 ^ 52 + m := by
    rw [ofBits, if_neg Bool.false_ne_true, UInt64.toNat_ofNat']
    omega
  have hsign : (ofBits false (1085 * 2 ^ 52 + m)).negative = false := by
    rw [negative, hbits]
    exact beq_false_of_ne (by omega)
  generalize ofBits false (1085 * 2 ^ 52 + m) = x at hbits hsign
  have hfraction : x.fraction = m % 2 ^ 52 := by
    rw [fraction, hbits]
    omega
  -- below `2 ^ 53` the leading bit makes the exponent, at `2 ^ 53` the carry makes one more of it
  rcases Nat.lt_or_ge m (2 ^ 53) with hm | hm
  · have hfield : x.exponentField = 1086 := by
      rw [exponentField, hbits]
      omega
    have hmantissa : x.mantissa = m := by
      rw [mantissa, hfield, if_neg (by decide), hfraction]
      omega
    refine ⟨by rw [isFinite, hfield]; rfl, ?_⟩
    rw [value, hsign, exponent, hfield, hmantissa]
    norm_num
  · have hfield : x.exponentField = 1087 := by
      rw [exponentField, hbits]
      omega
    have hmantissa : x.mantissa = 2 ^ 52 := by
      rw [mantissa, hfield, if_neg (by decide), hfraction]
      omega
    obtain rfl : m = 2 ^ 53 := by omega
    refine ⟨by rw [isFinite, hfield]; rfl, ?_⟩
    rw [value, hsign, exponent, hfield, hmantissa]
    norm_num

/-- An integer from `2 ^ 63` on is rounded to one of at least that size. -/
theorem value_ofInt {n : Int} (hlow : 2 ^ 63 ≤ n) (hhigh : n < 2 ^ 64) :
    (ofInt n).isFinite = true ∧ ∃ k : Int, 2 ^ 63 ≤ k ∧ (ofInt n).value = k := by
  obtain ⟨m, hm, hm', heq⟩ := ofInt_eq_ofBits hlow hhigh
  obtain ⟨hfinite, hvalue⟩ := value_ofBits hm hm'
  rw [heq]
  exact ⟨hfinite, (m * 2 ^ 11 : Nat), by omega, by rw [hvalue, Int.cast_natCast]⟩

end RecordService.Binary64
