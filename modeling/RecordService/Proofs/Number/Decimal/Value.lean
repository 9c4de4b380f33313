import RecordService.Number.Decimal
import Mathlib.Algebra.Order.Ring.Int

namespace RecordService.Decimal

/-!
# Decimals of the same value

* `sameValue_iff`, `sameValue_refl`: equality by value as an equation of numerators.
* `sameValue_ofInt64`: an integer of 64 bits in place of a decimal without a fraction.
* `sameValue_roundTo`: rounding to places that a decimal of the same value does not need.
* `sameValue_roundTo_roundTo`: rounding depends on the value alone.
-/

/-! ### Values -/

/-- Two decimals have the same value when their numerators agree over a common denominator. -/
theorem sameValue_iff {a b : Decimal} :
    a.sameValue b = true ↔ a.coefficient * 10 ^ b.scale = b.coefficient * 10 ^ a.scale := by
  rw [sameValue, beq_iff_eq, compare, numeratorWith, numeratorWith, compare_eq_iff_eq]

@[simp] theorem sameValue_refl (d : Decimal) : d.sameValue d = true :=
  sameValue_iff.2 rfl

/-- Which of two decimals comes first makes no difference to whether they are the same number. -/
theorem sameValue_comm {a b : Decimal} : a.sameValue b = true ↔ b.sameValue a = true := by
  rw [sameValue_iff, sameValue_iff, eq_comm]

/-- The coefficient of a decimal is its magnitude with a sign. -/
theorem natAbs_coefficient (d : Decimal) : d.coefficient.natAbs = d.magnitude := by
  rw [coefficient]
  split <;> omega

/-- A decimal with more places than another one of the same value has zeros in them. -/
theorem coefficient_eq_of_sameValue {a b : Decimal} (h : a.sameValue b = true)
    (hscale : b.scale ≤ a.scale) :
    a.coefficient = b.coefficient * 10 ^ (a.scale - b.scale) := by
  have hpow : (10 : Int) ^ a.scale = 10 ^ (a.scale - b.scale) * 10 ^ b.scale := by
    rw [← pow_add, Nat.sub_add_cancel hscale]
  have hvalue := sameValue_iff.1 h
  rw [hpow, ← mul_assoc] at hvalue
  exact mul_right_cancel₀ (pow_ne_zero _ (by decide)) hvalue

/-! ### Integral part -/

/-- A decimal without a fraction is its integral part, over its denominator. -/
theorem truncate_mul {d : Decimal} (h : d.isWhole = true) :
    d.truncate * 10 ^ d.scale = d.coefficient := by
  have hdvd : 10 ^ d.scale ∣ d.magnitude := Nat.dvd_of_mod_eq_zero (beq_iff_eq.1 h)
  have hcoefficient : ((10 ^ d.scale : Nat) : Int) ∣ d.coefficient := by
    rw [← Int.dvd_natAbs, natAbs_coefficient]
    exact Int.natCast_dvd_natCast.2 hdvd
  push_cast at hcoefficient
  exact Int.tdiv_mul_cancel hcoefficient

/-- An integer of 64 bits has the value of the decimal whose integral part it is. -/
theorem sameValue_ofInt64 {d : Decimal} {n : Int64} (h : d.isWhole = true)
    (hn : n.toInt = d.truncate) : (ofInt64 n).sameValue d = true := by
  rw [sameValue_iff, ofInt64_coefficient, ofInt64_scale, hn, truncate_mul h, pow_zero, mul_one]

/-! ### Rounding -/

/-- A ratio that is an integer is rounded to it. -/
theorem roundHalfEven_mul (k : Nat) {den : Nat} (hden : 0 < den) :
    Binary64.roundHalfEven (k * den) den = k := by
  have hquotient : k * den / den = k := Nat.mul_div_cancel k hden
  have hrest : k * den % den = 0 := Nat.mul_mod_left k den
  simp only [Binary64.roundHalfEven, hquotient, hrest]
  rw [if_pos (by omega)]

/-- A ratio is rounded alike in whatever terms it is written. -/
theorem roundHalfEven_mul_mul (num den : Nat) {k : Nat} (hk : 0 < k) :
    Binary64.roundHalfEven (num * k) (den * k) = Binary64.roundHalfEven num den := by
  have hrest : num * k % (den * k) = num % den * k := Nat.mul_mod_mul_right k num den
  have hbelow : 2 * (num % den * k) < den * k ↔ 2 * (num % den) < den := by
    rw [← Nat.mul_assoc, Nat.mul_lt_mul_right hk]
  have habove : den * k < 2 * (num % den * k) ↔ den < 2 * (num % den) := by
    rw [← Nat.mul_assoc, Nat.mul_lt_mul_right hk]
  simp only [Binary64.roundHalfEven, Nat.mul_div_mul_right num den hk, hrest, hbelow, habove]

/-- Rounding leaves no more places than asked for. -/
theorem scale_roundTo_le (places : Nat) (d : Decimal) : (d.roundTo places).scale ≤ places := by
  rw [roundTo]
  split
  · assumption
  · exact Nat.le_refl places

/-- A decimal with more places than asked for is left with just as many. -/
theorem scale_roundTo {d : Decimal} {places : Nat} (hscale : places < d.scale) :
    (d.roundTo places).scale = places := by
  rw [roundTo, dif_neg (Nat.not_le.2 hscale)]

/-- Where digits are dropped, the rounded magnitude has the sign of the decimal. -/
theorem coefficient_roundTo_eq {d : Decimal} {places : Nat} (hscale : places < d.scale) :
    (d.roundTo places).coefficient =
      d.coefficient.sign * Binary64.roundHalfEven d.magnitude (10 ^ (d.scale - places)) := by
  rw [roundTo, dif_neg (Nat.not_le.2 hscale)]
  simp only [coefficient]
  -- what is rounded to zero loses its sign, and what was zero keeps it; the numerator has none
  by_cases hzero : d.magnitude = 0
  · simp [hzero, Binary64.roundHalfEven]
  · have hsign : Int.sign (d.magnitude : Int) = 1 := Int.sign_eq_one_of_pos (by omega)
    have hmagnitude : (d.magnitude == 0) = false := beq_false_of_ne hzero
    rw [hmagnitude, Bool.false_or]
    generalize Binary64.roundHalfEven d.magnitude (10 ^ (d.scale - places)) = m
    cases d.negative with
    | false => simp [hsign]
    | true =>
      by_cases hm : m = 0
      · simp [hm]
      · simp [hm, hsign]

/-- Zeros in the last places are dropped without a change. -/
theorem coefficient_roundTo {d : Decimal} {places k : Nat} (hscale : places < d.scale)
    (h : d.magnitude = k * 10 ^ (d.scale - places)) :
    (d.roundTo places).coefficient * 10 ^ (d.scale - places) = d.coefficient := by
  have hden : 0 < 10 ^ (d.scale - places) := Nat.pow_pos (by decide)
  have hk : Binary64.roundHalfEven d.magnitude (10 ^ (d.scale - places)) = k := by
    rw [h, roundHalfEven_mul k hden]
  have hcast : (k : Int) * 10 ^ (d.scale - places) = d.magnitude := by
    rw [h]
    push_cast
    rfl
  rw [coefficient_roundTo_eq hscale, hk, mul_assoc, hcast, ← natAbs_coefficient,
    Int.sign_mul_natAbs]

/-- **Rounding.** A decimal keeps its value when it is rounded to places that are enough for
another decimal of that value. -/
theorem sameValue_roundTo {a b : Decimal} {places : Nat} (h : a.sameValue b = true)
    (hb : b.scale ≤ places) : (a.roundTo places).sameValue b = true := by
  by_cases hscale : a.scale ≤ places
  · rw [roundTo, dif_pos hscale]
    exact h
  · have hcoefficient := coefficient_eq_of_sameValue h (by omega)
    -- the zeros that `a` has beyond `b` are those that stay and those that are dropped
    have hsplit : a.scale - b.scale = (places - b.scale) + (a.scale - places) := by omega
    have hmagnitude : a.magnitude =
        b.magnitude * 10 ^ (places - b.scale) * 10 ^ (a.scale - places) := by
      rw [← natAbs_coefficient a, hcoefficient, Int.natAbs_mul, natAbs_coefficient, Int.natAbs_pow,
        hsplit, pow_add, mul_assoc]
      rfl
    have hrounded := coefficient_roundTo (by omega) hmagnitude
    have hplaces : (a.roundTo places).scale = places := scale_roundTo (by omega)
    rw [hcoefficient, hsplit, pow_add, ← mul_assoc] at hrounded
    have hcancel : (a.roundTo places).coefficient = b.coefficient * 10 ^ (places - b.scale) :=
      mul_right_cancel₀ (pow_ne_zero _ (by decide)) hrounded
    rw [sameValue_iff, hplaces, hcancel, mul_assoc, ← pow_add, Nat.sub_add_cancel hb]

/-- Decimals of the same value are rounded to decimals of the same value. -/
theorem sameValue_roundTo_roundTo {a b : Decimal} (h : a.sameValue b = true) (places : Nat) :
    (a.roundTo places).sameValue (b.roundTo places) = true := by
  wlog hle : b.scale ≤ a.scale generalizing a b
  · exact sameValue_comm.1 (this (sameValue_comm.1 h) (by omega))
  by_cases hb : b.scale ≤ places
  · rw [show b.roundTo places = b from dif_pos hb]
    exact sameValue_roundTo h hb
  · -- both lose digits, and `a` has the digits of `b` and zeros behind them
    have hcoefficient := coefficient_eq_of_sameValue h hle
    have hsplit : a.scale - places = (b.scale - places) + (a.scale - b.scale) := by omega
    have hpow : 0 < 10 ^ (a.scale - b.scale) := Nat.pow_pos (by decide)
    have hmagnitude : a.magnitude = b.magnitude * 10 ^ (a.scale - b.scale) := by
      rw [← natAbs_coefficient a, hcoefficient, Int.natAbs_mul, natAbs_coefficient, Int.natAbs_pow]
      rfl
    have hsign : a.coefficient.sign = b.coefficient.sign := by
      have hone : ((10 : Int) ^ (a.scale - b.scale)).sign = 1 :=
        Int.sign_eq_one_of_pos (pow_pos (by decide) _)
      rw [hcoefficient, Int.sign_mul, hone, mul_one]
    have hrounded : (a.roundTo places).coefficient = (b.roundTo places).coefficient := by
      rw [coefficient_roundTo_eq (by omega), coefficient_roundTo_eq (by omega), hsign, hmagnitude,
        hsplit, pow_add, roundHalfEven_mul_mul _ _ hpow]
    rw [sameValue_iff, hrounded, scale_roundTo (by omega), scale_roundTo (by omega)]

end RecordService.Decimal
