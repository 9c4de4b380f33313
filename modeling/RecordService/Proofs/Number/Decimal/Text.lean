import RecordService.Number.Decimal.Binary
import RecordService.Proofs.Number.Decimal.Value
import RecordService.Proofs.Text.Numeral

namespace RecordService.Decimal

/-!
# Decimals are read as they are written

* `scan?_append`: digits on either side of the point.
* `ofText?_toText`: the text of a decimal, which is read as one of its value.
* `ofText?_jsonLayout`: the texts of a double in JSON and in markup, which are read alike.
-/

/-! ### Scanning -/

/-- What has been read after more digits. -/
def Scan.after (s : Scan) (ds : List Char) : Scan where
  magnitude := Nat.ofDigitChars 10 ds s.magnitude
  scale := if s.point then s.scale + ds.length else s.scale
  point := s.point
  digit := s.digit || !ds.isEmpty

/-- A number does not get smaller by more digits. -/
theorem le_ofDigitChars (ds : List Char) (n : Nat) : n ≤ Nat.ofDigitChars 10 ds n := by
  rw [Nat.ofDigitChars_eq_ofDigitChars_zero]
  have hpow : 0 < 10 ^ ds.length := Nat.pow_pos (by decide)
  have hmul : n ≤ 10 ^ ds.length * n := Nat.le_mul_of_pos_left n hpow
  omega

/-- A digit is taken as long as the number and its places fit. -/
theorem scan?_cons {s : Scan} {c : Char} (hc : c.isDigit = true)
    (hwhole : s.point = false → s.scale = 0) (hplaces : s.point = true → s.scale < maxScale)
    (hlt : s.magnitude * 10 + (c.toNat - '0'.toNat) < 2 ^ 96) (cs : List Char) :
    scan? s (c :: cs) = scan? (s.after [c]) cs := by
  obtain ⟨magnitude, scale, point, digit⟩ := s
  have hroom : ¬(point && decide (maxScale ≤ scale)) = true := by
    rw [Bool.and_eq_true, decide_eq_true_eq]
    exact fun ⟨hpoint, hfull⟩ => Nat.not_lt.2 hfull (hplaces hpoint)
  have hafter : Scan.after ⟨magnitude, scale, point, digit⟩ [c] =
      ⟨magnitude * 10 + (c.toNat - '0'.toNat), if point then scale + 1 else 0, point, true⟩ := by
    have hmagnitude : Nat.ofDigitChars 10 [c] magnitude =
        magnitude * 10 + (c.toNat - '0'.toNat) := by
      rw [Nat.ofDigitChars_cons, Nat.ofDigitChars_nil, Nat.mul_comm]
    cases point with
    | true => simp [Scan.after, hmagnitude]
    | false => simp [Scan.after, hmagnitude, show scale = 0 from hwhole rfl]
  rw [scan?, if_neg hroom, if_pos hc, if_pos hlt, hafter]

theorem Scan.after_nil (s : Scan) : s.after [] = s := by
  obtain ⟨magnitude, scale, point, digit⟩ := s
  simp [after]

theorem Scan.after_cons (s : Scan) (c : Char) (cs : List Char) :
    s.after (c :: cs) = (s.after [c]).after cs := by
  obtain ⟨magnitude, scale, point, digit⟩ := s
  cases point with
  | true => simp [after, Nat.ofDigitChars_cons, Nat.add_assoc, Nat.add_comm 1]
  | false => simp [after, Nat.ofDigitChars_cons]

/-- Digits are taken as long as the number and its places fit. -/
theorem scan?_append {s : Scan} {ds : List Char} (hds : ∀ c ∈ ds, c.isDigit = true)
    (hwhole : s.point = false → s.scale = 0)
    (hplaces : s.point = true → s.scale + ds.length ≤ maxScale)
    (hlt : Nat.ofDigitChars 10 ds s.magnitude < 2 ^ 96) (rest : List Char) :
    scan? s (ds ++ rest) = scan? (s.after ds) rest := by
  induction ds generalizing s with
  | nil => rw [s.after_nil, List.nil_append]
  | cons c cs ih =>
    rw [List.length_cons] at hplaces
    rw [Nat.ofDigitChars_cons] at hlt
    -- the number so far is no larger than the whole, which fits
    have hstep : s.magnitude * 10 + (c.toNat - '0'.toNat) < 2 ^ 96 := by
      have hle := le_ofDigitChars cs (10 * s.magnitude + (c.toNat - '0'.toNat))
      omega
    have hone := scan?_cons (hds c List.mem_cons_self) hwhole
      (fun hpoint => by have hroom := hplaces hpoint; omega) hstep (cs ++ rest)
    rw [List.cons_append, hone, s.after_cons c cs]
    refine ih (fun d hd => hds d (List.mem_cons_of_mem c hd)) ?_ ?_ ?_
    · intro hpoint
      have hscale := hwhole hpoint
      simpa [Scan.after, show s.point = false from hpoint] using hscale
    · intro hpoint
      have hroom := hplaces hpoint
      simp only [Scan.after, if_pos (show s.point = true from hpoint), List.length_singleton]
      omega
    · simpa [Scan.after, Nat.ofDigitChars_cons] using hlt

/-! ### The text of a decimal -/

theorem digits_eq (d : Decimal) :
    d.digits = (Nat.toDigits 10 (d.magnitude / 10 ^ d.scale),
      if d.scale = 0 then [] else Text.zeroPadded 10 d.scale (d.magnitude % 10 ^ d.scale)) := rfl

/-- The digits of a decimal before and after its point are digits. -/
theorem isDigit_digits (d : Decimal) :
    (∀ c ∈ d.digits.1, c.isDigit = true) ∧ ∀ c ∈ d.digits.2, c.isDigit = true := by
  rw [digits_eq]
  refine ⟨fun c hc => Nat.isDigit_of_mem_toDigits (by decide) (Nat.le_refl 10) hc, ?_⟩
  dsimp only
  split
  · exact nofun
  · exact Text.isDigit_zeroPadded

/-- There are as many digits behind the point as a decimal has places. -/
theorem length_places (d : Decimal) : d.digits.2.length = d.scale := by
  rw [digits_eq]
  dsimp only
  split
  · rename_i hzero
    rw [hzero]
    rfl
  · exact Text.length_zeroPadded (by decide) (by omega) (Nat.mod_lt _ (Nat.pow_pos (by decide)))

/-- The digits write the magnitude. -/
theorem ofDigitChars_digits (d : Decimal) :
    Nat.ofDigitChars 10 d.digits.2 (Nat.ofDigitChars 10 d.digits.1 0) = d.magnitude := by
  have hwhole : Nat.ofDigitChars 10 d.digits.1 0 = d.magnitude / 10 ^ d.scale :=
    Nat.ofDigitChars_ten_toDigits
  have hplaces : Nat.ofDigitChars 10 d.digits.2 0 = d.magnitude % 10 ^ d.scale := by
    rw [digits_eq]
    dsimp only
    split
    · rename_i hzero
      rw [hzero, Nat.pow_zero, Nat.mod_one]
      rfl
    · exact Text.ofDigitChars_zeroPadded _ _
  rw [Nat.ofDigitChars_eq_ofDigitChars_zero, hwhole, hplaces, length_places, Nat.div_add_mod]

/-- The digits of a decimal with their point are read as its magnitude and its places. -/
theorem scan?_digits (d : Decimal) :
    scan? ⟨0, 0, false, false⟩
        (d.digits.1 ++ if d.digits.2.isEmpty then [] else '.' :: d.digits.2) =
      some ⟨d.magnitude, d.scale, !d.digits.2.isEmpty, true⟩ := by
  obtain ⟨hwhole, hplaces⟩ := d.isDigit_digits
  have hvalue := d.ofDigitChars_digits
  have hlength := d.length_places
  have hlt := d.magnitude_lt
  have hle := d.scale_le
  have hprefix : Nat.ofDigitChars 10 d.digits.1 0 < 2 ^ 96 := by
    have hle := le_ofDigitChars d.digits.2 (Nat.ofDigitChars 10 d.digits.1 0)
    omega
  have hsome : d.digits.1.isEmpty = false := by
    rw [digits_eq, List.isEmpty_eq_false_iff]
    exact Nat.toDigits_ne_nil
  have hbefore : Scan.after ⟨0, 0, false, false⟩ d.digits.1 =
      ⟨Nat.ofDigitChars 10 d.digits.1 0, 0, false, true⟩ := by
    simp [Scan.after, hsome]
  rw [scan?_append (s := ⟨0, 0, false, false⟩) hwhole (fun _ => rfl) nofun hprefix, hbefore]
  -- the point is written only before places
  by_cases hempty : d.digits.2 = []
  · rw [hempty, List.length_nil] at hlength
    rw [hempty, Nat.ofDigitChars_nil] at hvalue
    rw [hempty, hvalue, ← hlength]
    rfl
  · have hplace : d.digits.2.isEmpty = false := List.isEmpty_eq_false_iff.2 hempty
    have hpoint : ∀ n cs, scan? ⟨n, 0, false, true⟩ ('.' :: cs) = scan? ⟨n, 0, true, true⟩ cs := by
      intro n cs
      rw [scan?]
      rfl
    have hafter : Scan.after ⟨Nat.ofDigitChars 10 d.digits.1 0, 0, true, true⟩ d.digits.2 =
        ⟨d.magnitude, d.scale, true, true⟩ := by
      simp [Scan.after, hvalue, hlength]
    have hread := scan?_append (s := ⟨Nat.ofDigitChars 10 d.digits.1 0, 0, true, true⟩) hplaces
      nofun (fun _ => by rw [hlength]; exact (Nat.zero_add d.scale).symm ▸ hle)
      (hvalue.symm ▸ hlt) []
    rw [List.append_nil, hafter] at hread
    rw [hplace, if_neg Bool.false_ne_true, hpoint, hread]
    rfl

/-- The characters of the text of a decimal. -/
theorem mem_toText {d : Decimal} {c : Char} (hc : c ∈ d.toText.toList) :
    c.isDigit = true ∨ c = '-' ∨ c = '.' := by
  obtain ⟨hwhole, hplaces⟩ := d.isDigit_digits
  rw [toText, layOut, String.toList_ofList] at hc
  rcases List.mem_append.1 hc with hc | hc
  · rcases List.mem_append.1 hc with hc | hc
    · split at hc
      · exact .inr (.inl (List.mem_singleton.1 hc))
      · exact nomatch hc
    · exact .inl (hwhole c hc)
  · split at hc
    · exact nomatch hc
    · rcases List.mem_cons.1 hc with rfl | hc
      · exact .inr (.inr rfl)
      · exact .inl (hplaces c hc)

/-- A digit does not begin an exponent. -/
theorem isExponentMark_of_isDigit {c : Char} (hc : c.isDigit = true) :
    isExponentMark c = false := by
  refine Bool.eq_false_iff.2 fun hmark => ?_
  rw [isExponentMark, Bool.or_eq_true, beq_iff_eq, beq_iff_eq] at hmark
  rcases hmark with rfl | rfl
  · exact absurd hc (by decide)
  · exact absurd hc (by decide)

/-- A number is read with its sign. -/
theorem ofPlain?_signed (negative : Bool) {c : Char} (hc : c.isDigit = true) (cs : List Char) :
    ofPlain? ((if negative then ['-'] else []) ++ c :: cs) =
      (scan? ⟨0, 0, false, false⟩ (c :: cs)).bind fun s =>
        ofParts? negative s.magnitude s.scale := by
  cases negative with
  | true => rfl
  | false =>
    rw [if_neg Bool.false_ne_true, List.nil_append, ofPlain?]
    · exact fun rest => Text.cons_ne_of_isDigit hc (by decide) cs rest
    · exact fun rest => Text.cons_ne_of_isDigit hc (by decide) cs rest

/-- **Decimals.** The text of a decimal is read as a decimal of the same value. -/
theorem ofText?_toText (d : Decimal) :
    ∃ d', ofText? d.toText = some d' ∧ d'.sameValue d = true := by
  have hmarks : ∀ c ∈ d.toText.toList, (!isExponentMark c) = true := by
    intro c hc
    rcases mem_toText hc with hc | rfl | rfl
    · rw [isExponentMark_of_isDigit hc]
      rfl
    · decide
    · decide
  have hplain : ofPlain? d.toText.toList = ofParts? d.negative d.magnitude d.scale := by
    have hscan := d.scan?_digits
    rw [toText, layOut, String.toList_ofList, List.append_assoc]
    obtain ⟨c, cs, hdigits, hc⟩ := Text.exists_toDigits_eq_cons (d.magnitude / 10 ^ d.scale)
    rw [show d.digits.1 = c :: cs from hdigits, List.cons_append] at hscan ⊢
    rw [ofPlain?_signed d.negative hc, hscan, Option.bind_some]
  refine ⟨⟨d.negative && d.magnitude != 0, d.magnitude, d.scale, d.magnitude_lt, d.scale_le⟩,
    ?_, ?_⟩
  · rw [ofText?, Text.span_of_forall hmarks]
    dsimp only
    rw [hplain, ofParts?, dif_pos ⟨d.magnitude_lt, d.scale_le⟩]
  · have hcoefficient : coefficient ⟨d.negative && d.magnitude != 0, d.magnitude, d.scale,
        d.magnitude_lt, d.scale_le⟩ = d.coefficient := by
      -- a zero comes back without its sign
      by_cases hzero : d.magnitude = 0
      · simp [coefficient, hzero]
      · simp [coefficient, hzero]
    rw [sameValue_iff, hcoefficient]

/-- No white space stands around the text of a decimal. -/
theorem trim_toText (d : Decimal) : Text.trim d.toText = d.toText := by
  refine Text.trim_of_forall fun c hc => ?_
  rcases mem_toText hc with hc | rfl | rfl
  · exact Text.isBlank_of_isDigit hc
  · decide
  · decide

/-! ### The texts of a double -/

/-- An exponent is read with and without a plus sign. -/
theorem applyExponent?_plus (d : Decimal) (n : Nat) :
    d.applyExponent? ('+' :: Nat.toDigits 10 n) = d.applyExponent? (Nat.toDigits 10 n) := by
  obtain ⟨c, cs, hdigits, hc⟩ := Text.exists_toDigits_eq_cons n
  have hread : Text.readNatural 10 exponentLimit ('+' :: c :: cs) =
      Text.readNatural 10 exponentLimit (c :: cs) :=
    (Text.readNatural_cons hc cs).symm
  rw [hdigits, applyExponent?, hread, applyExponent?]
  · exact fun rest => Text.cons_ne_of_isDigit hc (by decide) cs rest
  · exact nofun

/-- A text is read in two parts, what stands before the exponent and the exponent. -/
theorem ofText?_exponent {base : List Char} (hbase : ∀ c ∈ base, isExponentMark c = false)
    (exponent : List Char) :
    ofText? (String.ofList (base ++ 'e' :: exponent)) =
      (ofPlain? base).bind (applyExponent? · exponent) := by
  have hspan : (base ++ 'e' :: exponent).span (fun c => !isExponentMark c) =
      (base, 'e' :: exponent) :=
    Text.span_append (fun c hc => by rw [hbase c hc]; rfl) (by decide)
  rw [ofText?, String.toList_ofList, hspan]

/-- The exponents of both layouts are read alike. -/
theorem ofText?_layScientific {before digits : List Char} {e : Int}
    (hbefore : ∀ c ∈ before, isExponentMark c = false)
    (hdigits : ∀ c ∈ digits, isExponentMark c = false) :
    ofText? (String.ofList (before ++ Binary64.layScientific Binary64.jsonLayout digits e)) =
      ofText? (String.ofList (before ++ Binary64.layScientific Binary64.dataLayout digits e)) := by
  have hbase : ∀ c ∈ before ++ (digits.take 1 ++
      if (digits.drop 1).isEmpty then [] else '.' :: digits.drop 1), isExponentMark c = false := by
    rw [List.forall_mem_append, List.forall_mem_append]
    refine ⟨hbefore, fun c hc => hdigits c (List.mem_of_mem_take hc), ?_⟩
    split
    · exact nofun
    · exact List.forall_mem_cons.2 ⟨by decide, fun c hc => hdigits c (List.mem_of_mem_drop hc)⟩
  have hsplit (l : Binary64.Layout) : before ++ Binary64.layScientific l digits e =
      (before ++ (digits.take 1 ++
        if (digits.drop 1).isEmpty then [] else '.' :: digits.drop 1)) ++
        'e' :: ((if e < 0 then ['-'] else if l.plusSign then ['+'] else []) ++
          Nat.toDigits 10 e.natAbs) := by
    simp only [Binary64.layScientific, List.append_assoc, List.cons_append]
  rw [hsplit, hsplit, ofText?_exponent hbase, ofText?_exponent hbase]
  by_cases hnegative : e < 0
  · rw [if_pos hnegative, if_pos hnegative]
  · rw [if_neg hnegative, if_neg hnegative]
    congr 1
    funext d
    exact applyExponent?_plus d e.natAbs

/-- The layouts of JSON and of markup differ in the plus sign of an exponent only. -/
theorem ofText?_layMagnitude {before : List Char}
    (hbefore : ∀ c ∈ before, isExponentMark c = false) (x : Binary64) :
    ofText? (String.ofList (before ++ Binary64.layMagnitude Binary64.jsonLayout x)) =
      ofText? (String.ofList (before ++ Binary64.layMagnitude Binary64.dataLayout x)) := by
  -- both layouts have the same digits, and write the same numbers without an exponent
  obtain ⟨n, t, hnumber⟩ : ∃ n t, (if x.mantissa = 0 then (0, 0) else x.shortest false) = (n, t) :=
    ⟨_, _, rfl⟩
  have hlay (l : Binary64.Layout) (htie : l.tieUp = false) : Binary64.layMagnitude l x =
      if l.positional (t + ((Nat.toDigits 10 n).length : Int) - 1) then
        Binary64.layPositional l (Nat.toDigits 10 n) t
      else Binary64.layScientific l (Nat.toDigits 10 n)
        (t + ((Nat.toDigits 10 n).length : Int) - 1) := by
    rw [Binary64.layMagnitude, htie, hnumber]
  have hdigits : ∀ c ∈ Nat.toDigits 10 n, isExponentMark c = false := fun c hc =>
    isExponentMark_of_isDigit (Nat.isDigit_of_mem_toDigits (by decide) (Nat.le_refl 10) hc)
  rw [hlay Binary64.jsonLayout rfl, hlay Binary64.dataLayout rfl]
  by_cases hpositional : Binary64.jsonLayout.positional
      (t + ((Nat.toDigits 10 n).length : Int) - 1) = true
  · rw [if_pos hpositional, if_pos (show Binary64.dataLayout.positional _ = true from hpositional)]
    rfl
  · rw [if_neg hpositional,
      if_neg (show ¬Binary64.dataLayout.positional _ = true from hpositional)]
    exact ofText?_layScientific hbefore hdigits

/-- **Doubles.** The texts of a double in JSON and in markup are read as the same decimal. -/
theorem ofText?_jsonLayout (x : Binary64) :
    ofText? (x.toText Binary64.jsonLayout) = ofText? (x.toText Binary64.dataLayout) := by
  rw [Binary64.toText, Binary64.toText]
  cases x.isNaN with
  | true => rfl
  | false =>
    cases x.isFinite with
    | false => rfl
    | true =>
      cases x.negative with
      | true => exact @ofText?_layMagnitude ['-'] (List.forall_mem_cons.2 ⟨by decide, nofun⟩) x
      | false => exact @ofText?_layMagnitude [] nofun x

/-- What is not a finite number has no text of a decimal. -/
theorem isFinite_of_ofText? {x : Binary64} {d : Decimal}
    (h : ofText? (x.toText Binary64.dataLayout) = some d) : x.isFinite = true := by
  have hnan : ofText? "NaN" = none := by decide
  have hinfinite (before : List Char) (hbefore : before = [] ∨ before = ['-']) :
      ofText? (String.ofList (before ++ "inf".toList)) = none := by
    rcases hbefore with rfl | rfl <;> decide
  rw [Binary64.toText] at h
  split at h
  · rw [hnan] at h
    exact nomatch h
  · by_contra hfinite
    rw [Bool.not_eq_true] at hfinite
    rw [hfinite] at h
    cases hnegative : x.negative with
    | true =>
      rw [hnegative] at h
      exact nomatch (hinfinite ['-'] (.inr rfl)).symm.trans h
    | false =>
      rw [hnegative] at h
      exact nomatch (hinfinite [] (.inl rfl)).symm.trans h

end RecordService.Decimal
