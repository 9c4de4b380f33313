import RecordService.Text.Wildcard
import Mathlib.Data.List.Infix

namespace RecordService.Text

/-!
# What patterns find

A pattern is looked for from left to right, and the search goes back to the latest `%` only. That
loses nothing: whatever an earlier `%` could still lead to, the latest one leads to as well.

* `Matches`: what a pattern stands for.
* `Finds`: what the search finds. A `%` of the pattern that meets a `%` of the text is taken for
  that character, otherwise it stands for any text.
* `like_iff_finds`: the search finds what `Finds` says, for all texts and patterns.
* `finds_iff_matches`: in a text without `%` that is what the pattern stands for.
* `like_continued_iff`: when a `%` before or behind a text takes in what stands there.
-/

/-! ### Patterns -/

/-- What a pattern stands for: `%` for any text, also for the empty one, `_` for any character, any
other character for itself. -/
def Matches : List Char → List Char → Prop
  | [], cs => cs = []
  | p :: ps, cs =>
    if p = '%' then ∃ rest, rest <:+ cs ∧ Matches ps rest
    else ∃ c rest, cs = c :: rest ∧ (p = '_' ∨ p = c) ∧ Matches ps rest

/-- What the search finds with a pattern: where the text has a `%`, a `%` of the pattern stands for
that character alone. -/
def Finds : List Char → List Char → Prop
  | [], cs => cs = []
  | p :: ps, cs =>
    if p = '%' ∧ cs.head? ≠ some '%' then ∃ rest, rest <:+ cs ∧ Finds ps rest
    else ∃ c rest, cs = c :: rest ∧ (p = '_' ∨ p = c) ∧ Finds ps rest

/-- Where the text has no `%`, one of the pattern takes in whatever leads to the rest. -/
theorem finds_percent {ps cs : List Char} (h : cs.head? ≠ some '%') :
    Finds ('%' :: ps) cs ↔ ∃ rest, rest <:+ cs ∧ Finds ps rest := by
  rw [Finds, if_pos ⟨rfl, h⟩]

/-- A character of the pattern that fits the next one of the text stands for it. -/
theorem finds_cons {p c : Char} {ps cs : List Char} (h : p = '_' ∨ p = c) :
    Finds (p :: ps) (c :: cs) ↔ Finds ps cs := by
  have hone : ¬(p = '%' ∧ (c :: cs).head? ≠ some '%') := by
    rintro ⟨rfl, hhead⟩
    rcases h with h | rfl
    · exact absurd h (by decide)
    · exact hhead rfl
  rw [Finds, if_neg hone]
  constructor
  · rintro ⟨d, rest, heq, -, hrest⟩
    rwa [(List.cons.inj heq).2]
  · exact fun hcs => ⟨c, cs, rfl, h, hcs⟩

/-- Other characters than `%` that do not fit find nothing. -/
theorem not_finds_cons {p c : Char} {ps cs : List Char} (hone : ¬(p = '_' ∨ p = c))
    (hany : p ≠ '%') : ¬Finds (p :: ps) (c :: cs) := by
  rw [Finds, if_neg fun h => hany h.1]
  rintro ⟨d, rest, heq, hp, -⟩
  exact hone ((List.cons.inj heq).1 ▸ hp)

/-- What is found of a pattern without its first character is found further on. -/
theorem Finds.further {p : Char} {ps cs : List Char} (h : Finds (p :: ps) cs) :
    ∃ rest, rest <:+ cs ∧ Finds ps rest := by
  rw [Finds] at h
  split at h
  · exact h
  · obtain ⟨c, rest, rfl, -, hrest⟩ := h
    exact ⟨rest, List.suffix_cons c rest, hrest⟩

/-- At the end of a text only `%` is left to find. -/
theorem finds_nil_right (ps : List Char) : Finds ps [] ↔ ps.all (· == '%') = true := by
  induction ps with
  | nil => simp [Finds]
  | cons p ps ih =>
    by_cases hp : p = '%'
    · subst hp
      rw [finds_percent (by simp)]
      simpa using ih
    · simp [Finds, hp]

/-! ### The search -/

/-- That going back finds something only if what is left of the pattern is found further on. -/
def FindsFurther (ps cs : List Char) (back : Unit → Bool) : Prop :=
  back () = true → ∃ rest, rest <:+ cs ∧ Finds ps rest

/-- A search that cannot go back finds nothing by going back. -/
theorem findsFurther_never (ps cs : List Char) : FindsFurther ps cs fun _ => false :=
  fun h => absurd h Bool.false_ne_true

/-- A search that is tried at each place finds what there is to find at one of them, the places that
are left being what each try goes back to. -/
theorem fitsSomewhere_iff {ps : List Char}
    (hfits : ∀ (back : Unit → Bool) (cs : List Char), FindsFurther ps cs back →
      (fits ps back cs = true ↔ Finds ps cs ∨ back () = true)) (cs : List Char) :
    fitsSomewhere (fits ps) cs = true ↔ ∃ rest, rest <:+ cs ∧ Finds ps rest := by
  induction cs with
  | nil =>
    rw [fitsSomewhere, hfits _ _ (findsFurther_never ps [])]
    simp
  | cons c cs ih =>
    have hback : FindsFurther ps (c :: cs) fun _ => fitsSomewhere (fits ps) cs := by
      intro h
      obtain ⟨rest, hrest, hfinds⟩ := ih.1 h
      exact ⟨rest, List.suffix_cons_iff.2 (.inr hrest), hfinds⟩
    rw [fitsSomewhere, hfits _ _ hback, ih]
    simp only [List.suffix_cons_iff, or_and_right, exists_or, exists_eq_left]

/-- **Nothing is lost by going back to the latest `%` only.** If going back finds anything, then
what is left of the pattern is found further on, and so it is after every step of the search. -/
theorem fits_iff (ps : List Char) (back : Unit → Bool) (cs : List Char)
    (hback : FindsFurther ps cs back) :
    fits ps back cs = true ↔ Finds ps cs ∨ back () = true := by
  induction ps generalizing back cs with
  | nil => cases cs <;> simp [fits, Finds]
  | cons p ps ih =>
    cases cs with
    | nil =>
      -- at the end nothing is tried again, and going back would find no more
      have hnil : back () = true → Finds (p :: ps) [] := by
        intro h
        obtain ⟨rest, hrest, hfinds⟩ := hback h
        rwa [List.suffix_nil.1 hrest] at hfinds
      rw [fits, ← finds_nil_right]
      exact ⟨.inl, fun h => h.elim id hnil⟩
    | cons c cs =>
      rw [fits]
      by_cases hone : p = '_' ∨ p = c
      · have hnext : FindsFurther ps cs back := by
          intro h
          obtain ⟨rest, hrest, hfinds⟩ := hback h
          rcases List.suffix_cons_iff.1 hrest with rfl | hrest
          · exact ⟨cs, List.suffix_rfl, (finds_cons hone).1 hfinds⟩
          · obtain ⟨after, hafter, hfinds⟩ := hfinds.further
            exact ⟨after, hafter.trans hrest, hfinds⟩
        rw [if_pos (by simpa using hone), ih back cs hnext, finds_cons hone]
      · rw [if_neg (by simpa using hone)]
        by_cases hany : p = '%'
        · subst hany
          have hhead : (c :: cs).head? ≠ some '%' := by
            simpa using fun h => hone (.inr h.symm)
          -- the latest `%` leads to all that going back to an earlier one could find
          have hlatest : back () = true → ∃ rest, rest <:+ c :: cs ∧ Finds ps rest := by
            intro h
            obtain ⟨rest, hrest, hfinds⟩ := hback h
            obtain ⟨after, hafter, hfinds⟩ := hfinds.further
            exact ⟨after, hafter.trans hrest, hfinds⟩
          rw [if_pos (by decide), fitsSomewhere_iff ih, finds_percent hhead]
          exact ⟨.inl, fun h => h.elim id hlatest⟩
        · rw [if_neg (by simpa using hany)]
          exact ⟨.inr, fun h => h.resolve_left (not_finds_cons hone hany)⟩

/-- **The search.** A text fits a pattern if the search finds the one in the other, both in lower
case. -/
theorem like_iff_finds (text pattern : String) :
    like text pattern = true ↔ Finds (lowerChars pattern.toList) (lowerChars text.toList) := by
  rw [like, fits_iff _ _ _ (findsFurther_never _ _)]
  simp

/-- In a text without `%` the search finds what the pattern stands for. -/
theorem finds_iff_matches {ps cs : List Char} (h : '%' ∉ cs) : Finds ps cs ↔ Matches ps cs := by
  induction ps generalizing cs with
  | nil => rfl
  | cons p ps ih =>
    have hhead : cs.head? ≠ some '%' := fun hhead => h (List.mem_of_mem_head? hhead)
    rw [Finds, Matches]
    by_cases hany : p = '%'
    · rw [if_pos ⟨hany, hhead⟩, if_pos hany]
      exact exists_congr fun rest =>
        and_congr_right fun hrest => ih fun hmem => h (hrest.subset hmem)
    · rw [if_neg fun hboth => hany hboth.1, if_neg hany]
      refine exists_congr fun c => exists_congr fun rest =>
        and_congr_right fun heq => and_congr_right fun _ => ih fun hmem => ?_
      exact h (heq ▸ List.mem_cons_of_mem c hmem)

/-! ### Texts before and behind a `%` -/

/-- A text of ASCII characters. -/
def IsAscii (s : String) : Prop :=
  ∀ c ∈ s.toList, c.toNat < 128

instance (s : String) : Decidable (IsAscii s) :=
  decidable_of_iff (s.toList.all fun c => c.toNat < 128) (by simp [IsAscii])

/-- A text without wildcards. -/
def IsLiteral (cs : List Char) : Prop :=
  ∀ c ∈ cs, c ≠ '%' ∧ c ≠ '_'

instance (cs : List Char) : Decidable (IsLiteral cs) :=
  decidable_of_iff (cs.all fun c => c != '%' && c != '_') (by simp [IsLiteral])

/-- What a `%` takes in by itself: any text that does not begin with a `%`, and a `%` alone. -/
def IsTakenIn (cs : List Char) : Prop :=
  cs.head? = some '%' → cs = ['%']

/-- In ASCII texts letters are put into lower case one by one, wherever they stand. -/
theorem lowerFrom_of_ascii {cs : List Char} (h : ∀ c ∈ cs, c.toNat < 128) (before : List Char) :
    lowerFrom before cs = cs.map Char.toLower := by
  induction cs generalizing before with
  | nil => rfl
  | cons c cs ih =>
    have hc : c.toNat < 128 := h c List.mem_cons_self
    have hsigma : (c == 'Σ') = false := by
      rw [beq_eq_false_iff_ne]
      rintro rfl
      exact absurd hc (by decide)
    rw [lowerFrom, hsigma, ih fun d hd => h d (List.mem_cons_of_mem c hd)]
    simp [lowerChar, hc]

/-- ASCII texts have the lower case of their letters. -/
theorem lowerChars_of_ascii {s : String} (h : IsAscii s) : lowerChars s.toList = foldAscii s :=
  lowerFrom_of_ascii h []

/-- Texts are folded one after the other. -/
theorem foldAscii_append (a b : String) : foldAscii (a ++ b) = foldAscii a ++ foldAscii b := by
  simp [foldAscii]

/-- Two ASCII texts, one after the other, are an ASCII text. -/
theorem IsAscii.append {a b : String} (ha : IsAscii a) (hb : IsAscii b) : IsAscii (a ++ b) := by
  intro c hc
  rw [String.toList_append, List.mem_append] at hc
  exact hc.elim (ha c) (hb c)

/-- No other character becomes a wildcard in lower case. -/
theorem toLower_eq_wildcard {c : Char} (h : c.toNat < 128) :
    (c.toLower = '%' ↔ c = '%') ∧ (c.toLower = '_' ↔ c = '_') := by
  have hall : ∀ n < 128, ((Char.ofNat n).toLower = '%' ↔ Char.ofNat n = '%') ∧
      ((Char.ofNat n).toLower = '_' ↔ Char.ofNat n = '_') := by decide
  have hc := hall c.toNat h
  rwa [Char.ofNat_toNat] at hc

/-- Folding makes no wildcard of a character that was none. -/
theorem IsLiteral.foldAscii {s : String} (hs : IsAscii s) (h : IsLiteral s.toList) :
    IsLiteral (foldAscii s) := by
  intro c hc
  obtain ⟨d, hd, rfl⟩ := List.mem_map.1 hc
  have hwild := toLower_eq_wildcard (hs d hd)
  exact ⟨fun heq => (h d hd).1 (hwild.1.1 heq), fun heq => (h d hd).2 (hwild.2.1 heq)⟩

/-- Folding makes no difference to whether a text is taken in. -/
theorem isTakenIn_foldAscii {t : String} (ht : IsAscii t) :
    IsTakenIn (foldAscii t) ↔ IsTakenIn t.toList := by
  unfold IsTakenIn Text.foldAscii
  cases hlist : t.toList with
  | nil => simp
  | cons c cs =>
    have hc := (toLower_eq_wildcard (ht c (hlist ▸ List.mem_cons_self))).1
    simp [hc]

/-- A text without wildcards is found where it stands. -/
theorem finds_literal_append {s : List Char} (hs : IsLiteral s) (ps cs : List Char) :
    Finds (s ++ ps) cs ↔ ∃ rest, cs = s ++ rest ∧ Finds ps rest := by
  induction s generalizing cs with
  | nil => simp
  | cons d s ih =>
    have hd := hs d List.mem_cons_self
    rw [List.cons_append, Finds, if_neg fun h => hd.1 h.1]
    constructor
    · rintro ⟨c, rest, rfl, hone, hfinds⟩
      obtain ⟨after, rfl, hafter⟩ :=
        (ih (fun e he => hs e (List.mem_cons_of_mem d he)) rest).1 hfinds
      exact ⟨after, by rw [hone.resolve_left hd.2]; rfl, hafter⟩
    · rintro ⟨after, rfl, hafter⟩
      exact ⟨d, s ++ after, rfl, .inr rfl,
        (ih (fun e he => hs e (List.mem_cons_of_mem d he)) _).2 ⟨after, rfl, hafter⟩⟩

/-- A `%` at the end of a pattern. -/
theorem finds_percent_last (cs : List Char) : Finds ['%'] cs ↔ IsTakenIn cs := by
  by_cases hhead : cs.head? = some '%'
  · obtain ⟨rest, rfl⟩ : ∃ rest, cs = '%' :: rest := List.head?_eq_some_iff.1 hhead
    rw [finds_cons (.inr rfl), Finds]
    simp [IsTakenIn]
  · rw [finds_percent hhead]
    simp [IsTakenIn, hhead, Finds]

/-- A `%` before a text without wildcards. -/
theorem finds_percent_append {s : List Char} (hs : IsLiteral s) (ps cs : List Char) :
    Finds ('%' :: (s ++ ps)) cs ↔
      ∃ before rest, cs = before ++ (s ++ rest) ∧ (cs.head? = some '%' → before = ['%']) ∧
        Finds ps rest := by
  by_cases hhead : cs.head? = some '%'
  · obtain ⟨after, rfl⟩ : ∃ after, cs = '%' :: after := List.head?_eq_some_iff.1 hhead
    rw [finds_cons (.inr rfl), finds_literal_append hs]
    constructor
    · rintro ⟨rest, rfl, hrest⟩
      exact ⟨['%'], rest, rfl, fun _ => rfl, hrest⟩
    · rintro ⟨before, rest, heq, hbefore, hrest⟩
      rw [hbefore hhead] at heq
      exact ⟨rest, (List.cons.inj heq).2, hrest⟩
  · rw [finds_percent hhead]
    constructor
    · rintro ⟨after, ⟨before, rfl⟩, hfinds⟩
      obtain ⟨rest, rfl, hrest⟩ := (finds_literal_append hs ps after).1 hfinds
      exact ⟨before, rest, rfl, fun h => absurd h hhead, hrest⟩
    · rintro ⟨before, rest, rfl, -, hrest⟩
      exact ⟨s ++ rest, List.suffix_append before _,
        (finds_literal_append hs ps _).2 ⟨rest, rfl, hrest⟩⟩

/-- A text without wildcards does not begin with one. -/
theorem IsLiteral.head?_ne {s : List Char} (hs : IsLiteral s) : s.head? ≠ some '%' :=
  fun h => (hs '%' (List.mem_of_mem_head? h)).1 rfl

/-- A `%` before a text without wildcards that ends the pattern. -/
theorem finds_percent_before {s : List Char} (hs : IsLiteral s) (t : List Char) :
    Finds ('%' :: s) (t ++ s) ↔ IsTakenIn t := by
  have hfinds := finds_percent_append hs [] (t ++ s)
  rw [List.append_nil] at hfinds
  rw [hfinds]
  constructor
  · rintro ⟨before, rest, heq, hbefore, hrest⟩ hhead
    rw [show rest = [] from hrest, List.append_nil] at heq
    rw [List.append_cancel_right heq]
    exact hbefore (by rw [List.head?_append, hhead]; rfl)
  · intro ht
    refine ⟨t, [], by rw [List.append_nil], fun hhead => ?_, rfl⟩
    cases t with
    | nil => exact absurd hhead hs.head?_ne
    | cons c t => exact ht hhead

/-- A `%` on both sides of a text without wildcards. -/
theorem finds_percent_around {s : List Char} (hs : IsLiteral s) (cs : List Char) :
    Finds ('%' :: (s ++ ['%'])) cs ↔
      ∃ before after, cs = before ++ (s ++ after) ∧ IsTakenIn before ∧ IsTakenIn after := by
  rw [finds_percent_append hs]
  constructor
  · rintro ⟨before, after, rfl, hbefore, hafter⟩
    refine ⟨before, after, rfl, fun hhead => hbefore ?_, (finds_percent_last after).1 hafter⟩
    rw [List.head?_append, hhead]
    rfl
  · rintro ⟨before, after, rfl, hbefore, hafter⟩
    by_cases hmark : before = [] ∧ s = [] ∧ after = ['%']
    -- the only character of the text is a `%`, which the first `%` of the pattern takes
    · obtain ⟨rfl, rfl, rfl⟩ := hmark
      exact ⟨['%'], [], rfl, fun _ => rfl, (finds_percent_last []).2 nofun⟩
    · refine ⟨before, after, rfl, fun hhead => ?_, (finds_percent_last after).2 hafter⟩
      cases before with
      | cons c before => exact hbefore hhead
      | nil =>
        cases s with
        | cons c s => exact absurd hhead hs.head?_ne
        | nil => exact absurd ⟨rfl, rfl, hafter hhead⟩ hmark

/-- **Continued texts.** A `%` behind a text, or before it, takes in exactly the texts that do not
begin with a `%`, and a `%` alone. On both sides of a text it is a matter of where the text stands
that is found. -/
theorem like_continued_iff {s t u : String} (hs : IsAscii s) (hliteral : IsLiteral s.toList)
    (ht : IsAscii t) (hu : IsAscii u) :
    (like (s ++ t) (s ++ "%") = true ↔ IsTakenIn t.toList) ∧
      (like (t ++ s) ("%" ++ s) = true ↔ IsTakenIn t.toList) ∧
      (like (t ++ s ++ u) ("%" ++ s ++ "%") = true ↔
        ∃ before after, foldAscii (t ++ s ++ u) = before ++ (foldAscii s ++ after) ∧
          IsTakenIn before ∧ IsTakenIn after) := by
  have hpercent : IsAscii "%" := by
    intro c hc
    rw [List.mem_singleton.1 hc]
    decide
  have hfold : foldAscii "%" = ['%'] := rfl
  have hwild := IsLiteral.foldAscii hs hliteral
  refine ⟨?_, ?_, ?_⟩
  · rw [like_iff_finds, lowerChars_of_ascii (hs.append ht),
      lowerChars_of_ascii (hs.append hpercent), foldAscii_append, foldAscii_append, hfold,
      finds_literal_append hwild, ← isTakenIn_foldAscii ht, ← finds_percent_last]
    constructor
    · rintro ⟨rest, heq, hrest⟩
      rwa [List.append_cancel_left heq]
    · exact fun h => ⟨foldAscii t, rfl, h⟩
  · rw [like_iff_finds, lowerChars_of_ascii (ht.append hs),
      lowerChars_of_ascii (hpercent.append hs), foldAscii_append, foldAscii_append, hfold,
      List.singleton_append, finds_percent_before hwild, isTakenIn_foldAscii ht]
  · rw [like_iff_finds, lowerChars_of_ascii ((ht.append hs).append hu),
      lowerChars_of_ascii ((hpercent.append hs).append hpercent), foldAscii_append ("%" ++ s),
      foldAscii_append "%", hfold, List.singleton_append, List.cons_append,
      finds_percent_around hwild]

/-- A text that begins with a letter is taken in on both sides of another one. -/
theorem like_continued_iff_letters :
    IsAscii "b" ∧ IsLiteral "b".toList ∧ IsAscii "a%" ∧ IsAscii "c%" ∧
      like ("b" ++ "a%") ("b" ++ "%") = true ∧ like ("a%" ++ "b") ("%" ++ "b") = true ∧
      like ("a%" ++ "b" ++ "c%") ("%" ++ "b" ++ "%") = true := by
  have hs : IsAscii "b" := by decide +kernel
  have hliteral : IsLiteral "b".toList := by decide +kernel
  have ht : IsAscii "a%" := by decide +kernel
  have hu : IsAscii "c%" := by decide +kernel
  obtain ⟨hbehind, hbefore, haround⟩ := like_continued_iff hs hliteral ht hu
  have htaken : IsTakenIn "a%".toList := fun h => absurd h (by decide +kernel)
  exact ⟨hs, hliteral, ht, hu, hbehind.2 htaken, hbefore.2 htaken,
    haround.2 ⟨['a', '%'], ['c', '%'], by decide +kernel, nofun, nofun⟩⟩

/-- A text that begins with a `%` is not taken in, neither behind another text nor before it nor on
one of two sides. -/
theorem like_continued_mark :
    IsAscii "b" ∧ IsLiteral "b".toList ∧ IsAscii "%x" ∧
      like ("b" ++ "%x") ("b" ++ "%") = false ∧ like ("%x" ++ "b") ("%" ++ "b") = false ∧
      like ("" ++ "b" ++ "%x") ("%" ++ "b" ++ "%") = false := by
  decide +kernel

end RecordService.Text
