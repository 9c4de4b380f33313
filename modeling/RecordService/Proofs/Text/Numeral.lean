import RecordService.Proofs.Text.Run
import RecordService.Text.Numeral

namespace RecordService.Text

/-!
# Numerals are read as they are written

* `digit?_digitChar`: a digit.
* `readDigits_toDigits`, `readNatural_toDigits`: the digits of a natural number.
* `zeroPadded`: digits behind zeros, and their number.
-/

/-! ### Digits -/

/-- Digits are no white space. -/
theorem isBlank_of_isDigit {c : Char} (h : c.isDigit = true) : isBlank c = false := by
  have hrange : 48 ≤ c.toNat ∧ c.toNat ≤ 57 := by
    simpa [Char.isDigit, UInt32.le_iff_toNat_le] using h
  refine Bool.eq_false_iff.2 fun hblank => ?_
  simp only [isBlank, Bool.or_eq_true, Bool.and_eq_true, decide_eq_true_eq, beq_iff_eq] at hblank
  omega

/-- A digit is read as its value. -/
theorem digit?_digitChar {base d : Nat} (hbase : base ≤ 16) (hd : d < base) :
    digit? base d.digitChar = some d := by
  have hsixteen : ∀ d < 16, digit? 16 d.digitChar = some d := by decide
  have hvalue := hsixteen d (Nat.lt_of_lt_of_le hd hbase)
  unfold digit? at hvalue ⊢
  rw [Option.filter_eq_some_iff] at hvalue ⊢
  exact ⟨hvalue.1, decide_eq_true hd⟩

/-- A digit is taken in as long as the number stays within its limit. -/
theorem readDigits_cons {base limit acc d : Nat} {fault : NumeralFault} {c : Char} (cs : List Char)
    (hc : digit? base c = some d) (hlimit : acc * base + d ≤ limit) :
    readDigits base limit fault acc (c :: cs) =
      readDigits base limit fault (acc * base + d) cs := by
  rw [readDigits, hc]
  dsimp only
  rw [if_neg (Nat.not_lt.2 hlimit)]

/-- Digits are read in two parts, the second going on from the number of the first. -/
theorem readDigits_append {base limit acc n : Nat} {fault : NumeralFault} {cs : List Char}
    (h : readDigits base limit fault acc cs = .ok n) (ds : List Char) :
    readDigits base limit fault acc (cs ++ ds) = readDigits base limit fault n ds := by
  induction cs generalizing acc with
  | nil =>
    cases h
    rfl
  | cons c cs ih =>
    rw [List.cons_append, readDigits]
    rw [readDigits] at h
    cases hdigit : digit? base c with
    | none =>
      rw [hdigit] at h
      exact nomatch h
    | some d =>
      rw [hdigit] at h
      dsimp only at h ⊢
      split at h
      · exact nomatch h
      · rename_i hlimit
        rw [if_neg hlimit]
        exact ih h

/-- **Numerals.** The digits of a number up to the limit are read as that number. -/
theorem readDigits_toDigits {base limit n : Nat} (fault : NumeralFault) (hone : 1 < base)
    (hbase : base ≤ 16) (hn : n ≤ limit) :
    readDigits base limit fault 0 (Nat.toDigits base n) = .ok n := by
  induction n using Nat.strongRecOn with
  | ind n ih =>
    by_cases hlt : n < base
    · rw [Nat.toDigits_of_lt_base hlt,
        readDigits_cons [] (digit?_digitChar hbase hlt) (by omega), Nat.zero_mul, Nat.zero_add]
      rfl
    -- all digits but the last are those of the quotient, which is read first
    · have hsmaller : n / base < n := Nat.div_lt_self (by omega) hone
      have hhigh := ih (n / base) hsmaller (by omega)
      have hlow : n % base < base := Nat.mod_lt _ (by omega)
      have hsum : n / base * base + n % base = n := Nat.div_add_mod' n base
      rw [Nat.toDigits_of_base_le hone (by omega), readDigits_append hhigh,
        readDigits_cons [] (digit?_digitChar hbase hlow) (by omega), hsum]
      rfl

/-- A numeral begins with a digit. -/
theorem exists_toDigits_eq_cons (n : Nat) :
    ∃ c cs, Nat.toDigits 10 n = c :: cs ∧ c.isDigit = true := by
  cases hdigits : Nat.toDigits 10 n with
  | nil => exact absurd hdigits Nat.toDigits_ne_nil
  | cons c cs =>
    have hc : c ∈ Nat.toDigits 10 n := hdigits ▸ List.mem_cons_self
    exact ⟨c, cs, rfl, Nat.isDigit_of_mem_toDigits (by decide) (Nat.le_refl 10) hc⟩

/-- A digit is none of the marks that may stand before it. -/
theorem cons_ne_of_isDigit {c mark : Char} (hc : c.isDigit = true) (hmark : mark.isDigit = false)
    (cs rest : List Char) : c :: cs ≠ mark :: rest := by
  intro heq
  rw [(List.cons.inj heq).1, hmark] at hc
  exact absurd hc Bool.false_ne_true

/-- A numeral that begins with a digit has no sign. -/
theorem readNatural_cons {base limit : Nat} {c : Char} (hc : c.isDigit = true) (cs : List Char) :
    readNatural base limit (c :: cs) = readMagnitude base limit .tooLarge (c :: cs) := by
  rw [readNatural]
  · exact nofun
  · exact fun rest => cons_ne_of_isDigit hc (by decide) cs rest

/-- The digits of a number are read without a sign. -/
theorem readNatural_toDigits {limit n : Nat} (hn : n ≤ limit) :
    readNatural 10 limit (Nat.toDigits 10 n) = .ok n := by
  have hread := readDigits_toDigits .tooLarge (by decide) (by decide : 10 ≤ 16) hn
  obtain ⟨c, cs, hdigits, hc⟩ := exists_toDigits_eq_cons n
  rw [hdigits] at hread ⊢
  rw [readNatural_cons hc]
  exact hread

/-! ### Leading zeros -/

/-- The digits of a number behind zeros that fill them up to a width. -/
def zeroPadded (base width n : Nat) : List Char :=
  List.replicate (width - (Nat.toDigits base n).length) '0' ++ Nat.toDigits base n

/-- A number that fits is as wide as it should be. -/
theorem length_zeroPadded {base width n : Nat} (hone : 1 < base) (hwidth : 0 < width)
    (hn : n < base ^ width) : (zeroPadded base width n).length = width := by
  have hle : (Nat.toDigits base n).length ≤ width := (Nat.length_toDigits_le_iff hone hwidth).2 hn
  rw [zeroPadded, List.length_append, List.length_replicate]
  omega

theorem zeroPadded_ne_nil (base width n : Nat) : zeroPadded base width n ≠ [] := by
  simp [zeroPadded]

/-- A number that is filled up with zeros has digits only. -/
theorem isDigit_zeroPadded {width n : Nat} : ∀ c ∈ zeroPadded 10 width n, c.isDigit = true := by
  intro c hc
  rcases List.mem_append.1 hc with hc | hc
  · rw [List.eq_of_mem_replicate hc]
    rfl
  · exact Nat.isDigit_of_mem_toDigits (by decide) (Nat.le_refl 10) hc

/-- Leading zeros do not change the number. -/
theorem ofDigitChars_zeroPadded (width n : Nat) :
    Nat.ofDigitChars 10 (zeroPadded 10 width n) 0 = n := by
  rw [zeroPadded, Nat.ofDigitChars_append, Nat.ofDigitChars_replicate_zero, Nat.mul_zero,
    Nat.ofDigitChars_ten_toDigits]

/-- The values of the digits of a number. -/
theorem mapM_toDigits {base n : Nat} (hone : 1 < base) (hbase : base ≤ 16) :
    ∃ ds, (Nat.toDigits base n).mapM (digit? base) = some ds ∧
      ds.foldl (fun m d => m * base + d) 0 = n := by
  induction n using Nat.strongRecOn with
  | ind n ih =>
    by_cases hlt : n < base
    · refine ⟨[n], ?_, by simp⟩
      rw [Nat.toDigits_of_lt_base hlt, List.mapM_cons, digit?_digitChar hbase hlt]
      rfl
    · have hsmaller : n / base < n := Nat.div_lt_self (by omega) hone
      have hlow : n % base < base := Nat.mod_lt _ (by omega)
      obtain ⟨ds, hds, hvalue⟩ := ih (n / base) hsmaller
      refine ⟨ds ++ [n % base], ?_, ?_⟩
      · rw [Nat.toDigits_of_base_le hone (by omega), List.mapM_append, hds, List.mapM_cons,
          digit?_digitChar hbase hlow]
        rfl
      · rw [List.foldl_append, hvalue]
        exact Nat.div_add_mod' n base

/-- The values of the digits of a number behind zeros. -/
theorem mapM_zeroPadded {base : Nat} (width n : Nat) (hone : 1 < base) (hbase : base ≤ 16) :
    ∃ ds, (zeroPadded base width n).mapM (digit? base) = some ds ∧
      ds.foldl (fun m d => m * base + d) 0 = n := by
  have hzeros : ∀ k, (List.replicate k '0').mapM (digit? base) = some (List.replicate k 0) := by
    intro k
    induction k with
    | zero => rfl
    | succ k ih =>
      have hzero : digit? base '0' = some 0 := @digit?_digitChar base 0 hbase (by omega)
      rw [List.replicate_succ, List.mapM_cons, hzero, ih]
      rfl
  have hfold : ∀ k, (List.replicate k 0).foldl (fun m d => m * base + d) 0 = 0 := by
    intro k
    induction k with
    | zero => rfl
    | succ k ih =>
      rw [List.replicate_succ, List.foldl_cons, Nat.zero_mul]
      exact ih
  obtain ⟨ds, hds, hvalue⟩ := @mapM_toDigits base n hone hbase
  refine ⟨List.replicate (width - (Nat.toDigits base n).length) 0 ++ ds, ?_, ?_⟩
  · rw [zeroPadded, List.mapM_append, hzeros, hds]
    rfl
  · rw [List.foldl_append, hfold, hvalue]

/-- The digits of a number are characters of digits. -/
theorem mem_toDigits {base n : Nat} (hone : 1 < base) {c : Char} (hc : c ∈ Nat.toDigits base n) :
    ∃ d < base, c = Nat.digitChar d := by
  induction n using Nat.strongRecOn with
  | ind n ih =>
    by_cases hlt : n < base
    · rw [Nat.toDigits_of_lt_base hlt, List.mem_singleton] at hc
      exact ⟨n, hlt, hc⟩
    · rw [Nat.toDigits_of_base_le hone (by omega)] at hc
      rcases List.mem_append.1 hc with hc | hc
      · exact ih (n / base) (Nat.div_lt_self (by omega) hone) hc
      · exact ⟨n % base, Nat.mod_lt _ (by omega), List.mem_singleton.1 hc⟩

/-- A number that is filled up with zeros has digits of its base only. -/
theorem mem_zeroPadded {base width n : Nat} (hone : 1 < base) {c : Char}
    (hc : c ∈ zeroPadded base width n) : ∃ d < base, c = Nat.digitChar d := by
  rcases List.mem_append.1 hc with hc | hc
  · exact ⟨0, by omega, List.eq_of_mem_replicate hc⟩
  · exact mem_toDigits hone hc

end RecordService.Text
