import RecordService.Number.Decimal.Binary

namespace RecordService.Decimal

/-!
# Doubles that are decimals

The conversion of a double loses digits, but it fails for nothing except a magnitude that is out of
range: no step on the way leaves more than 96 bits in the mantissa or a positive exponent.

* `Scaled.Fits`: what every step of the conversion keeps.
* `isSome_ofBinary64?_iff`: the doubles that are decimals are the finite ones below `2 ^ 96`.
-/

namespace Scaled

/-- A number under conversion has at most 96 bits and a number of places. -/
structure Fits (s : Scaled) : Prop where
  mantissa_lt : s.mantissa < 2 ^ 96
  exponent_le : s.exponent ≤ 0

/-- The places of a number under conversion are told by its exponent. -/
theorem places_eq {s : Scaled} (h : s.Fits) : (s.places : Int) = -s.exponent := by
  have hexponent := h.exponent_le
  rw [places]
  omega

/-! ### Powers of two -/

/-- Dividing by two as often as the exponent allows leaves a mantissa of 96 bits. -/
theorem fits_divideByTwos {n : Nat} {s : Scaled} (hm : s.mantissa < 2 ^ 96)
    (he : s.exponent + n ≤ 0) : (divideByTwos n s).Fits := by
  induction n generalizing s with
  | zero => exact ⟨hm, by rw [divideByTwos]; omega⟩
  | succ n ih =>
    obtain ⟨m, e⟩ := s
    rw [divideByTwos]
    dsimp only at hm he
    split
    · exact ih (by dsimp only; omega) (by dsimp only; omega)
    · split
      · exact ih (by assumption) (by dsimp only; omega)
      · exact ih (by dsimp only; omega) (by dsimp only; omega)

/-- Multiplying by two is exact while the product has 96 bits. -/
theorem multiplyByTwos_eq {n m : Nat} {e : Int} (hm : m * 2 ^ n < 2 ^ 96) :
    multiplyByTwos n ⟨m, e⟩ = ⟨m * 2 ^ n, e - n⟩ := by
  induction n generalizing m e with
  | zero => simp [multiplyByTwos]
  | succ n ih =>
    have hproduct : m * 2 ^ (n + 1) = m * 2 * 2 ^ n := by rw [Nat.pow_succ', Nat.mul_assoc]
    have hdouble : m * 2 ≤ m * 2 * 2 ^ n := Nat.le_mul_of_pos_right _ (Nat.two_pow_pos n)
    rw [hproduct] at hm
    rw [multiplyByTwos, if_pos (by omega), ih hm, hproduct]
    congr 1
    omega

/-! ### Digits -/

section

variable {n : Nat} {s : Scaled}

/-- Dropping a digit keeps a number within its 96 bits, as long as there is a place to drop. -/
theorem fits_dropDigit (h : s.Fits) (hplaces : 0 < s.places) : s.dropDigit.Fits := by
  have hm := h.mantissa_lt
  have hexponent := places_eq h
  exact ⟨by rw [dropDigit]; dsimp only; omega, by rw [dropDigit]; dsimp only; omega⟩

/-- Dropping a digit takes one place off. -/
theorem places_dropDigit (h : s.Fits) (hplaces : 0 < s.places) :
    s.dropDigit.places = s.places - 1 := by
  have hdropped := places_eq (fits_dropDigit h hplaces)
  have hexponent := places_eq h
  rw [dropDigit] at hdropped ⊢
  dsimp only at hdropped
  omega

/-- Dropping digits that there are leaves that many places less. -/
theorem fits_dropDigits (h : s.Fits) (hn : n ≤ s.places) :
    (dropDigits n s).Fits ∧ (dropDigits n s).places ≤ s.places - n := by
  induction n generalizing s with
  | zero => exact ⟨h, Nat.le_refl _⟩
  | succ n ih =>
    rw [dropDigits]
    split
    · exact ⟨⟨by decide, Int.le_refl 0⟩, Nat.zero_le _⟩
    · have hplaces := places_dropDigit h (by omega)
      obtain ⟨hfits, hle⟩ := ih (fits_dropDigit h (by omega)) (by omega)
      exact ⟨hfits, by omega⟩

/-- Dropping digits until a number fits takes places off, if any. -/
theorem fits_fitDigits (h : s.Fits) (hn : n ≤ s.places) :
    (fitDigits n s).Fits ∧ (fitDigits n s).places ≤ s.places := by
  induction n generalizing s with
  | zero => exact ⟨h, Nat.le_refl _⟩
  | succ n ih =>
    rw [fitDigits]
    split
    · have hplaces := places_dropDigit h (by omega)
      obtain ⟨hfits, hle⟩ := ih (fits_dropDigit h (by omega)) (by omega)
      exact ⟨hfits, by omega⟩
    · exact ⟨h, Nat.le_refl _⟩

/-- Dropping zeros takes places off, if any. -/
theorem fits_dropZeros (h : s.Fits) (hn : n ≤ s.places) :
    (dropZeros n s).Fits ∧ (dropZeros n s).places ≤ s.places := by
  induction n generalizing s with
  | zero => exact ⟨h, Nat.le_refl _⟩
  | succ n ih =>
    rw [dropZeros]
    split
    · have hm := h.mantissa_lt
      have hexponent := places_eq h
      have hfits : (Scaled.mk (s.mantissa / 10) (s.exponent + 1)).Fits :=
        ⟨by dsimp only; omega, by dsimp only; omega⟩
      have hplaces := places_eq hfits
      dsimp only at hplaces
      obtain ⟨hrest, hle⟩ := ih hfits (by omega)
      exact ⟨hrest, by omega⟩
    · exact ⟨h, Nat.le_refl _⟩

end

end Scaled

/-! ### Doubles -/

/-- Parts that are in range make a decimal. -/
theorem isSome_ofParts? {negative : Bool} {magnitude scale : Nat} (hm : magnitude < 2 ^ 96)
    (hscale : scale ≤ 28) : (ofParts? negative magnitude scale).isSome := by
  rw [ofParts?, dif_pos ⟨hm, hscale⟩]
  rfl

/-- What is left of a conversion after the powers of two is a decimal. -/
theorem isSome_ofScaled {s : Scaled} (h : s.Fits) (negative : Bool) :
    (let s := Scaled.dropDigits (s.places - maxScale) s
      let s := fitDigits s.places s
      let s := dropZeros s.places s
      ofParts? negative s.mantissa s.places).isSome := by
  obtain ⟨hdropped, hscale⟩ := Scaled.fits_dropDigits h (Nat.sub_le s.places maxScale)
  obtain ⟨hfitting, hfewer⟩ := Scaled.fits_fitDigits hdropped (Nat.le_refl _)
  obtain ⟨hrest, hleast⟩ := Scaled.fits_dropZeros hfitting (Nat.le_refl _)
  have hmax : maxScale = 28 := rfl
  exact isSome_ofParts? hrest.mantissa_lt (by omega)

/-- The mantissa of a double has at most 53 bits. -/
theorem mantissa_lt (x : Binary64) : x.mantissa < 2 ^ 53 := by
  have hfraction : x.fraction < 2 ^ 52 := Nat.mod_lt _ (by decide)
  rw [Binary64.mantissa]
  split <;> omega

/-- The powers of two of a double in range leave no positive exponent. -/
theorem fits_scaled {x : Binary64} (h : x.ratio.1 / x.ratio.2 < 2 ^ 96) :
    (if x.exponent < 0 then divideByTwos (-x.exponent).toNat ⟨x.mantissa, x.exponent⟩
      else multiplyByTwos x.exponent.toNat ⟨x.mantissa, x.exponent⟩).Fits := by
  have hmantissa := mantissa_lt x
  split
  · exact Scaled.fits_divideByTwos (by dsimp only; omega) (by dsimp only; omega)
  · rename_i hexponent
    rw [Binary64.ratio, if_pos (by omega), Nat.div_one] at h
    rw [Scaled.multiplyByTwos_eq h]
    exact ⟨h, by dsimp only; omega⟩

/-- The doubles that are decimals are the finite ones with an integral part of 96 bits. -/
theorem isSome_ofBinary64?_iff {x : Binary64} :
    (ofBinary64? x).isSome ↔ x.isFinite = true ∧ x.ratio.1 / x.ratio.2 < 2 ^ 96 := by
  rw [ofBinary64?]
  cases hfinite : x.isFinite with
  | false => simp
  | true =>
    simp only [Bool.not_true, Bool.false_eq_true, if_false, true_and]
    by_cases hzero : x.mantissa = 0
    · have hratio : x.ratio.1 / x.ratio.2 = 0 := by
        rw [Binary64.ratio, hzero]
        split <;> simp
      rw [if_pos hzero, hratio]
      exact ⟨fun _ => by decide, fun _ => isSome_ofParts? (by decide) (by decide)⟩
    · rw [if_neg hzero]
      by_cases hrange : 2 ^ 96 ≤ x.ratio.1 / x.ratio.2
      · rw [if_pos hrange]
        exact ⟨nofun, fun h => absurd h (Nat.not_lt.2 hrange)⟩
      · have hlt : x.ratio.1 / x.ratio.2 < 2 ^ 96 := Nat.lt_of_not_le hrange
        have hfits := fits_scaled hlt
        have hexponent : ¬ 0 < (if x.exponent < 0 then
            divideByTwos (-x.exponent).toNat ⟨x.mantissa, x.exponent⟩
            else multiplyByTwos x.exponent.toNat ⟨x.mantissa, x.exponent⟩).exponent :=
          Int.not_lt.2 hfits.exponent_le
        rw [if_neg hrange, if_neg hexponent]
        exact ⟨fun _ => hlt, fun _ => isSome_ofScaled hfits x.negative⟩

end RecordService.Decimal
