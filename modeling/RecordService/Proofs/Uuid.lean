import RecordService.Proofs.Text.Numeral
import RecordService.Uuid

namespace RecordService.Uuid

/-!
# Identifiers are read as they are written

* `unhyphenate?_hyphenate`: hyphens that were put in are taken out.
* `ofText?_toText`: the written form of an identifier.
-/

/-! ### Hyphens -/

/-- Hyphens between groups of the right sizes are taken out again. -/
theorem unhyphenate?_hyphenate {sizes : List Nat} {cs : List Char} (hsizes : sizes ≠ [])
    (h : cs.length = sizes.sum) : unhyphenate? sizes (hyphenate sizes cs) = some cs := by
  induction sizes generalizing cs with
  | nil => exact absurd rfl hsizes
  | cons n sizes ih =>
    cases sizes with
    | nil =>
      have hlength : cs.length = n := by simpa using h
      rw [hyphenate, unhyphenate?, List.take_of_length_le (Nat.le_of_eq hlength), if_pos hlength]
    | cons m sizes =>
      rw [List.sum_cons] at h
      have htake : (cs.take n).length = n := by
        rw [List.length_take]
        omega
      have hrest := @ih (cs.drop n) (List.cons_ne_nil _ _) (by rw [List.length_drop]; omega)
      -- after the first group stands the hyphen, and behind it the rest is read by induction
      have hdrop : (hyphenate (n :: m :: sizes) cs).drop n =
          '-' :: hyphenate (m :: sizes) (cs.drop n) := by
        rw [hyphenate, List.drop_append_of_le_length (Nat.le_of_eq htake.symm),
          List.drop_of_length_le (Nat.le_of_eq htake), List.nil_append]
        exact List.cons_ne_nil _ _
      have hhead : (hyphenate (n :: m :: sizes) cs).take n = cs.take n := by
        rw [hyphenate, List.take_append_of_le_length (Nat.le_of_eq htake.symm),
          List.take_of_length_le (Nat.le_of_eq htake)]
        exact List.cons_ne_nil _ _
      rw [unhyphenate?, hdrop]
      · show Option.map (fun x => (hyphenate (n :: m :: sizes) cs).take n ++ x)
            (unhyphenate? (m :: sizes) (hyphenate (m :: sizes) (cs.drop n))) = some cs
        rw [hrest, hhead, Option.map_some, List.take_append_drop]
      · exact List.cons_ne_nil _ _

/-! ### Digits -/

theorem digits_eq (u : Uuid) : u.digits = Text.zeroPadded 16 32 u.value := rfl

/-- An identifier has 32 digits. -/
theorem length_digits (u : Uuid) : u.digits.length = 32 := by
  rw [digits_eq]
  exact Text.length_zeroPadded (by decide) (by decide) (by have := u.value_lt; omega)

/-- An identifier is read from its digits. -/
theorem ofDigits?_digits (u : Uuid) : ofDigits? u.digits = some u := by
  obtain ⟨ds, hds, hvalue⟩ := Text.mapM_zeroPadded 32 u.value (by decide : 1 < 16) (by decide)
  rw [ofDigits?, if_pos u.length_digits, digits_eq, hds, Option.bind_some, hvalue, ofNat?,
    dif_pos u.value_lt]

/-! ### Text -/

/-- The written form consists of digits and hyphens. -/
theorem mem_hyphenate {sizes : List Nat} {cs : List Char} {c : Char}
    (h : c ∈ hyphenate sizes cs) : c = '-' ∨ c ∈ cs := by
  induction sizes generalizing cs with
  | nil => exact nomatch h
  | cons n sizes ih =>
    cases sizes with
    | nil => exact .inr (List.mem_of_mem_take h)
    | cons m sizes =>
      rw [hyphenate] at h
      · rcases List.mem_append.1 h with h | h
        · exact .inr (List.mem_of_mem_take h)
        · rcases List.mem_cons.1 h with rfl | h
          · exact .inl rfl
          · exact (ih h).imp_right List.mem_of_mem_drop
      · exact List.cons_ne_nil _ _

/-- The text of an identifier has 36 characters. -/
theorem length_toText (u : Uuid) : u.toText.toList.length = 36 := by
  have hdigits := u.length_digits
  rw [toText, String.toList_ofList]
  simp only [groupSizes, hyphenate, List.length_append, List.length_cons, List.length_take,
    List.length_drop, hdigits]
  omega

/-- The written form begins with a digit. -/
theorem head_toText (u : Uuid) : ∃ d < 16, ∃ cs, u.toText.toList = Nat.digitChar d :: cs := by
  have hdigits := u.length_digits
  cases hlist : u.digits with
  | nil =>
    rw [hlist] at hdigits
    exact nomatch hdigits
  | cons c cs =>
    have hc : c ∈ u.digits := hlist ▸ List.mem_cons_self
    obtain ⟨d, hd, rfl⟩ := Text.mem_zeroPadded (by decide) (u.digits_eq ▸ hc)
    refine ⟨d, hd, ?_⟩
    rw [toText, String.toList_ofList, hlist]
    exact ⟨_, rfl⟩

/-- No white space stands around the written form. -/
theorem trim_toText (u : Uuid) : Text.trim u.toText = u.toText := by
  refine Text.trim_of_forall fun c hc => ?_
  rw [toText, String.toList_ofList] at hc
  rcases mem_hyphenate hc with rfl | hc
  · decide
  · obtain ⟨d, hd, rfl⟩ := Text.mem_zeroPadded (by decide) (u.digits_eq ▸ hc)
    have hall : ∀ d < 16, Text.isBlank (Nat.digitChar d) = false := by decide
    exact hall d hd

/-- **Identifiers.** The written form is read as the identifier. -/
theorem ofText?_toText (u : Uuid) : ofText? u.toText = some u := by
  have hmarks : ∀ d < 16, Nat.digitChar d ≠ '\x7b' ∧ (Nat.digitChar d).toLower ≠ 'u' := by
    decide
  obtain ⟨d, hd, cs, hhead⟩ := u.head_toText
  have hlength := u.length_toText
  -- a digit begins neither the form in braces nor that of a name
  have hbrace : ¬(u.toText.toList.head? == some '\x7b' && u.toText.toList.getLast? == some '\x7d')
      = true := by
    rw [hhead, List.head?_cons]
    simp [(hmarks d hd).1]
  have hname : ¬((u.toText.toList.take urnStart.length).map Char.toLower == urnStart) = true := by
    rw [hhead]
    show ¬((Nat.digitChar d).toLower :: (cs.take 8).map Char.toLower == 'u' :: "rn:uuid:".toList)
      = true
    simp [(hmarks d hd).2]
  unfold ofText?
  rw [if_neg (by omega), if_neg hbrace, if_neg hname]
  unfold ofHyphenated?
  rw [toText, String.toList_ofList, unhyphenate?_hyphenate (by decide) u.length_digits,
    Option.bind_some, ofDigits?_digits]

end RecordService.Uuid
