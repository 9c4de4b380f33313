import RecordService.Proofs.Text.Numeral
import RecordService.Text.Grouped

namespace RecordService.Text

/-!
# Numbers keep their digits when these are grouped

Commas are all that grouping adds to a number, and they stand before its point only, where they part
the digits into groups: up to three digits first, and three in every other group.

* `groupDigits_append`: a comma stands where the number of the digits behind it is a multiple of
  three.
* `splitOn_groupDigits`, `inThrees_groupDigits`: the groups between the commas.
* `PlainNumber`: the texts that are numbers with an optional sign and an optional point.
* `toList_grouped`: sign and fraction of a number stay as they are.
* `grouped_inThrees`: what becomes of a number.
-/

/-! ### Digits -/

/-- Commas are all that is added. -/
theorem filter_groupDigits (cs : List Char) :
    (groupDigits cs).filter (· != ',') = cs.filter (· != ',') := by
  induction cs with
  | nil => rfl
  | cons c cs ih =>
    have hcomma : ¬(',' != ',') = true := by decide
    rw [groupDigits]
    split
    · simp only [List.filter_cons, if_neg hcomma, ih]
    · simp only [List.filter_cons, ih]

/-- Setting off digits adds no characters but commas. -/
theorem mem_groupDigits {c : Char} {cs : List Char} (h : c ∈ groupDigits cs) (hc : c ≠ ',') :
    c ∈ cs := by
  have hkept : c ∈ (groupDigits cs).filter (· != ',') :=
    List.mem_filter.2 ⟨h, bne_iff_ne.2 hc⟩
  rw [filter_groupDigits] at hkept
  exact (List.mem_filter.1 hkept).1

/-- No comma stands before the first digit. -/
theorem groupDigits_cons (c : Char) (cs : List Char) : ∃ ds, groupDigits (c :: cs) = c :: ds := by
  rw [groupDigits]
  split
  · exact ⟨_, rfl⟩
  · exact ⟨_, rfl⟩

/-- Up to three digits are a single group. -/
theorem groupDigits_of_length_le {cs : List Char} (h : cs.length ≤ 3) : groupDigits cs = cs := by
  induction cs with
  | nil => rfl
  | cons c cs ih =>
    rw [List.length_cons] at h
    have hnone : ¬(cs ≠ [] ∧ cs.length % 3 = 0) := by
      rintro ⟨hcs, hthree⟩
      have hpos := List.length_pos_iff.2 hcs
      omega
    rw [groupDigits, if_neg hnone, ih (by omega)]

/-- Digits whose number is a multiple of three are set off by a comma from up to three digits
before them. -/
theorem groupDigits_append {first rest : List Char} (hfirst : first ≠ []) (hle : first.length ≤ 3)
    (hrest : rest ≠ []) (hthree : 3 ∣ rest.length) :
    groupDigits (first ++ rest) = first ++ ',' :: groupDigits rest := by
  induction first with
  | nil => exact absurd rfl hfirst
  | cons c first ih =>
    rw [List.length_cons] at hle
    cases first with
    | nil =>
      rw [List.cons_append, List.nil_append, groupDigits,
        if_pos ⟨hrest, Nat.mod_eq_zero_of_dvd hthree⟩]
      rfl
    | cons d ds =>
      -- one or two digits and a multiple of three are no multiple of three
      have hnone : ¬(d :: ds ++ rest ≠ [] ∧ (d :: ds ++ rest).length % 3 = 0) := by
        rintro ⟨-, hmod⟩
        rw [List.length_append, List.length_cons] at hmod
        rw [List.length_cons] at hle
        omega
      rw [List.cons_append, groupDigits, if_neg hnone, ih (List.cons_ne_nil d ds) (by omega)]
      rfl

/-! ### Groups -/

/-- Groups as they are set off: one to three digits first, and three in every other group. -/
def InThrees : List (List Char) → Prop
  | [] => False
  | first :: others => (1 ≤ first.length ∧ first.length ≤ 3) ∧ ∀ g ∈ others, g.length = 3

/-- Up to three digits are one group. -/
theorem splitOn_groupDigits_of_length_le {cs : List Char} (h : cs.length ≤ 3) (hcomma : ',' ∉ cs) :
    (groupDigits cs).splitOn ',' = [cs] := by
  rw [groupDigits_of_length_le h, List.splitOn_eq_singleton hcomma]

/-- The digits before the first comma are the first group. -/
theorem splitOn_groupDigits {cs : List Char} {k : Nat} (hk : 1 ≤ k ∧ k ≤ 3) (hlt : k < cs.length)
    (hcomma : ',' ∉ cs) (hthree : 3 ∣ cs.length - k) :
    (groupDigits cs).splitOn ',' = cs.take k :: (groupDigits (cs.drop k)).splitOn ',' := by
  have hfirst : (cs.take k).length = k := List.length_take_of_le (by omega)
  have hrest : (cs.drop k).length = cs.length - k := List.length_drop
  have hgrouped := groupDigits_append (List.ne_nil_of_length_pos (by omega)) (hfirst.trans_le hk.2)
    (List.ne_nil_of_length_pos (by omega)) (hrest ▸ hthree)
  rw [List.take_append_drop] at hgrouped
  rw [hgrouped, List.splitOn_append_cons_self_of_not_mem fun h => hcomma (List.mem_of_mem_take h)]

/-- A multiple of three digits stands in groups of three, one after the other. -/
theorem splitOn_groupDigits_of_dvd {cs : List Char} (hcs : cs ≠ []) (hcomma : ',' ∉ cs)
    (hthree : 3 ∣ cs.length) : ∀ g ∈ (groupDigits cs).splitOn ',', g.length = 3 := by
  induction hn : cs.length using Nat.strongRecOn generalizing cs with
  | ind n ih =>
    have hpos := List.length_pos_iff.2 hcs
    by_cases hle : cs.length ≤ 3
    · rw [splitOn_groupDigits_of_length_le hle hcomma]
      exact List.forall_mem_singleton.2 (by omega)
    -- without the first three digits it is a multiple of three again
    · have hrest : (cs.drop 3).length = cs.length - 3 := List.length_drop
      have hothers := ih (cs.length - 3) (by omega) (List.ne_nil_of_length_pos (by omega))
        (fun h => hcomma (List.mem_of_mem_drop h)) (by omega) hrest
      have hfirst : (cs.take 3).length = 3 := List.length_take_of_le (by omega)
      rw [splitOn_groupDigits (k := 3) (by omega) (by omega) hcomma (by omega)]
      exact List.forall_mem_cons.2 ⟨hfirst, hothers⟩

/-- The commas part any digits into groups. What three does not divide is in the first. -/
theorem inThrees_groupDigits {cs : List Char} (hcs : cs ≠ []) (hcomma : ',' ∉ cs) :
    InThrees ((groupDigits cs).splitOn ',') := by
  have hpos := List.length_pos_iff.2 hcs
  by_cases hle : cs.length ≤ 3
  · rw [splitOn_groupDigits_of_length_le hle hcomma]
    exact ⟨⟨hpos, hle⟩, fun _ h => nomatch h⟩
  -- the first group has the digits that three leaves over, or three if it leaves none
  · obtain ⟨k, hk, hthree⟩ : ∃ k, (1 ≤ k ∧ k ≤ 3) ∧ 3 ∣ cs.length - k :=
      ⟨(cs.length - 1) % 3 + 1, by omega, by omega⟩
    have hfirst : (cs.take k).length = k := List.length_take_of_le (by omega)
    have hrest : (cs.drop k).length = cs.length - k := List.length_drop
    rw [splitOn_groupDigits hk (by omega) hcomma hthree]
    exact ⟨hfirst.symm ▸ hk, splitOn_groupDigits_of_dvd (List.ne_nil_of_length_pos (by omega))
      (fun h => hcomma (List.mem_of_mem_drop h)) (hrest.symm ▸ hthree)⟩

/-! ### Numbers -/

/-- A number as text: a minus sign or none, one digit or more, and a point with further digits or
none. -/
structure PlainNumber where
  isNegative : Bool
  digits : List Char
  /-- What follows the point, if there is one. -/
  fraction? : Option (List Char)
  digits_ne_nil : digits ≠ []
  isDigit_digits : ∀ c ∈ digits, c.isDigit = true
  isDigit_fraction : ∀ ds ∈ fraction?, ∀ c ∈ ds, c.isDigit = true

namespace PlainNumber

/-- The sign of a number. -/
def sign (n : PlainNumber) : List Char :=
  if n.isNegative then ['-'] else []

/-- The point of a number and what follows it. -/
def pointAndFraction (n : PlainNumber) : List Char :=
  match n.fraction? with
  | some ds => '.' :: ds
  | none => []

/-- The text of a number. -/
def toText (n : PlainNumber) : String :=
  String.ofList (n.sign ++ n.digits ++ n.pointAndFraction)

variable {n : PlainNumber} {c : Char}

/-- A mark is none of the digits of a number. -/
theorem notMem_digits (hc : c.isDigit = false) : c ∉ n.digits := by
  intro h
  rw [n.isDigit_digits c h] at hc
  exact nomatch hc

/-- Any other mark than the point is none of what follows the digits. -/
theorem notMem_pointAndFraction (hc : c.isDigit = false) (hpoint : c ≠ '.') :
    c ∉ n.pointAndFraction := by
  intro h
  unfold pointAndFraction at h
  split at h
  · rename_i ds hfraction
    rcases List.mem_cons.1 h with rfl | h
    · exact hpoint rfl
    · rw [n.isDigit_fraction ds hfraction c h] at hc
      exact nomatch hc
  · exact nomatch h

/-- Any other mark than a minus is none of the sign. -/
theorem notMem_sign (hc : c ≠ '-') : c ∉ n.sign := by
  unfold sign
  split
  · exact fun h => hc (List.mem_singleton.1 h)
  · exact List.not_mem_nil

/-- What stands before the point of a number ends there, with the text if there is none. -/
theorem span_point {whole : List Char} (h : '.' ∉ whole) (n : PlainNumber) :
    (whole ++ n.pointAndFraction).span (· != '.') = (whole, n.pointAndFraction) := by
  have hwhole : ∀ c ∈ whole, (c != '.') = true := fun c hc => bne_iff_ne.2 fun he => h (he ▸ hc)
  unfold pointAndFraction
  split
  · exact span_append hwhole (by decide)
  · rw [List.append_nil]
    exact span_of_forall hwhole

/-- The sign of a number stands aside. -/
theorem groupThousands_sign (n : PlainNumber) :
    groupThousands (n.sign ++ n.digits) = n.sign ++ groupDigits n.digits := by
  unfold sign
  split
  · rfl
  · rw [List.nil_append, List.nil_append, groupThousands]
    intro ds h
    have hminus : '-' ∈ n.digits := h ▸ List.mem_cons_self
    exact notMem_digits (by decide) hminus

end PlainNumber

/-! ### What grouping does -/

/-- A number is grouped between its sign and its point. -/
theorem toList_grouped (n : PlainNumber) :
    (grouped n.toText).toList = n.sign ++ groupDigits n.digits ++ n.pointAndFraction := by
  have hwhole : '.' ∉ n.sign ++ n.digits := by
    rw [List.mem_append, not_or]
    exact ⟨PlainNumber.notMem_sign (by decide), PlainNumber.notMem_digits (by decide)⟩
  simp only [grouped, PlainNumber.toText, String.toList_ofList, PlainNumber.span_point hwhole,
    n.groupThousands_sign]

/-- What stands before the first point of a text, without a minus sign. -/
def integralPart (s : String) : List Char :=
  (s.toList.takeWhile (· != '.')).dropWhile (· == '-')

/-- The first point of a text and what follows it. -/
def fractionalPart (s : String) : List Char :=
  s.toList.dropWhile (· != '.')

/-- The point of a grouped number is where it was. -/
theorem parts_grouped (n : PlainNumber) :
    (grouped n.toText).toList.takeWhile (· != '.') = n.sign ++ groupDigits n.digits ∧
      (grouped n.toText).toList.dropWhile (· != '.') = n.pointAndFraction := by
  have hwhole : '.' ∉ n.sign ++ groupDigits n.digits := by
    rw [List.mem_append, not_or]
    refine ⟨PlainNumber.notMem_sign (by decide), fun h => ?_⟩
    exact PlainNumber.notMem_digits (by decide) (mem_groupDigits h (by decide))
  have hspan := PlainNumber.span_point hwhole n
  rw [← toList_grouped, List.span_eq_takeWhile_dropWhile] at hspan
  exact Prod.mk.inj hspan

/-- Between its sign and its point, a grouped number has its digits, set off. -/
theorem integralPart_grouped (n : PlainNumber) :
    integralPart (grouped n.toText) = groupDigits n.digits := by
  obtain ⟨c, cs, hdigits⟩ := List.exists_cons_of_ne_nil n.digits_ne_nil
  obtain ⟨ds, hgrouped⟩ := groupDigits_cons c cs
  have hc : c ∈ n.digits := hdigits ▸ List.mem_cons_self
  have hminus : ¬(c == '-') = true := fun h =>
    PlainNumber.notMem_digits (by decide : '-'.isDigit = false) (beq_iff_eq.1 h ▸ hc)
  -- a number has one sign only, so nothing more is dropped behind it
  have hkept : (groupDigits n.digits).dropWhile (· == '-') = groupDigits n.digits := by
    rw [hdigits, hgrouped]
    exact List.dropWhile_cons_of_neg hminus
  rw [integralPart, (parts_grouped n).1, PlainNumber.sign]
  split
  · exact hkept
  · exact hkept

/-- **Grouping.** A number is what is left of its grouped text without the commas. None of them
follows the point, and those before it part the digits into groups of three, but for a first group
of up to three. -/
theorem grouped_inThrees (n : PlainNumber) :
    (grouped n.toText).toList.filter (· != ',') = n.toText.toList ∧
      ',' ∉ fractionalPart (grouped n.toText) ∧
      InThrees ((integralPart (grouped n.toText)).splitOn ',') := by
  have hsign : ',' ∉ n.sign := PlainNumber.notMem_sign (by decide)
  have hdigits : ',' ∉ n.digits := PlainNumber.notMem_digits (by decide)
  have hfraction : ',' ∉ n.pointAndFraction :=
    PlainNumber.notMem_pointAndFraction (by decide) (by decide)
  have hkept {cs : List Char} (h : ',' ∉ cs) : cs.filter (· != ',') = cs :=
    List.filter_eq_self.2 fun c hc => bne_iff_ne.2 fun he => h (he ▸ hc)
  refine ⟨?_, ?_, ?_⟩
  · rw [toList_grouped, List.filter_append, List.filter_append, filter_groupDigits, hkept hsign,
      hkept hdigits, hkept hfraction, PlainNumber.toText, String.toList_ofList]
  · rw [fractionalPart, (parts_grouped n).2]
    exact hfraction
  · rw [integralPart_grouped]
    exact inThrees_groupDigits n.digits_ne_nil hdigits

/-- The sign does not count, and the fraction stays in one piece. -/
example : grouped "-123456.7890" = "-123,456.7890" := by decide +kernel

end RecordService.Text
