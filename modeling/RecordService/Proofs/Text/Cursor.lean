import RecordService.Proofs.Text.Wildcard

namespace RecordService.Text

/-!
# The search for a pattern as a loop

The search walks over a text and a pattern with a place in each, and remembers the latest `%` with
the place from which what follows it was tried last. Each step leaves less to do, and none changes
what the search finds.

* `Cursor`: where the search stands; `Cursor.step` is one step of it.
* `Cursor.Stepped`: what a step can do, and when.
* `Cursor.Stepped.answer_eq`: no step changes what the search finds.
* `Cursor.Sound.ends`: the search ends, with what it finds.
* `like_iff_matches`: in a text without `%` that is what the pattern stands for.
-/

/-- Trying at each place begins with a try at the first one. -/
theorem fitsSomewhere_eq (ps cs : List Char) :
    fitsSomewhere (fits ps) cs = fits ps (fun _ => fitsSomewhere (fits ps) cs.tail) cs := by
  cases cs with
  | nil => cases ps <;> rfl
  | cons c cs => rfl

/-- Where the search stands: a place in the text, one in the pattern, and the latest `%` of the
pattern with the place in the text from which what follows it was tried last. -/
structure Cursor where
  place : Nat
  next : Nat
  retry : Option (Nat × Nat)

namespace Cursor

/-- The start of a search. -/
def start : Cursor :=
  ⟨0, 0, none⟩

/-- One step of the search, or its answer. -/
def step (pattern text : List Char) (s : Cursor) : Cursor ⊕ Bool :=
  match text[s.place]? with
  | none => .inr ((pattern.drop s.next).all (· == '%'))
  | some c =>
    if pattern[s.next]? = some '_' ∨ pattern[s.next]? = some c then
      .inl ⟨s.place + 1, s.next + 1, s.retry⟩
    else if pattern[s.next]? = some '%' then .inl ⟨s.place, s.next + 1, some (s.next, s.place)⟩
    else
      match s.retry with
      | some (p, v) => .inl ⟨v + 1, p + 1, some (p, v + 1)⟩
      | none => .inr false

/-- The search ends from a cursor with an answer. -/
inductive Ends (pattern text : List Char) : Cursor → Bool → Prop where
  | stop {s : Cursor} {answer : Bool} (h : s.step pattern text = .inr answer) :
      Ends pattern text s answer
  | next {s s' : Cursor} {answer : Bool} (h : s.step pattern text = .inl s')
      (hends : Ends pattern text s' answer) : Ends pattern text s answer

variable {pattern text : List Char} {s s' : Cursor}

/-- What a step can do, and when. -/
inductive Stepped (pattern text : List Char) (s : Cursor) : Cursor ⊕ Bool → Prop where
  /-- The text is at its end. -/
  | finish (hc : text[s.place]? = none) :
      Stepped pattern text s (.inr ((pattern.drop s.next).all (· == '%')))
  /-- A character of the pattern stands for the next one of the text. -/
  | take {c p : Char} (hc : text[s.place]? = some c) (hp : pattern[s.next]? = some p)
      (hone : p = '_' ∨ p = c) :
      Stepped pattern text s (.inl ⟨s.place + 1, s.next + 1, s.retry⟩)
  /-- A `%` of the pattern is the latest one from now on. -/
  | setOut {c : Char} (hc : text[s.place]? = some c) (hp : pattern[s.next]? = some '%')
      (hmark : c ≠ '%') :
      Stepped pattern text s (.inl ⟨s.place, s.next + 1, some (s.next, s.place)⟩)
  /-- What follows the latest `%` is tried from one place further on. -/
  | goBack {c : Char} {p v : Nat} (hc : text[s.place]? = some c)
      (hnone : ∀ d, pattern[s.next]? = some d → ¬(d = '_' ∨ d = c) ∧ d ≠ '%')
      (hretry : s.retry = some (p, v)) :
      Stepped pattern text s (.inl ⟨v + 1, p + 1, some (p, v + 1)⟩)
  /-- There is no `%` to go back to. -/
  | fail {c : Char} (hc : text[s.place]? = some c)
      (hnone : ∀ d, pattern[s.next]? = some d → ¬(d = '_' ∨ d = c) ∧ d ≠ '%')
      (hretry : s.retry = none) : Stepped pattern text s (.inr false)

/-- Every step of the cursor is one of the steps that are told here. -/
theorem stepped_step (pattern text : List Char) (s : Cursor) :
    Stepped pattern text s (s.step pattern text) := by
  unfold step
  split
  · rename_i hc
    exact .finish hc
  rename_i c hc
  split
  · rename_i hone
    rcases hone with hp | hp
    · exact .take hc hp (.inl rfl)
    · exact .take hc hp (.inr rfl)
  rename_i hone
  split
  · rename_i hany
    refine .setOut hc hany ?_
    rintro rfl
    exact hone (.inr hany)
  rename_i hany
  have hnone : ∀ d, pattern[s.next]? = some d → ¬(d = '_' ∨ d = c) ∧ d ≠ '%' := by
    intro d hd
    rw [hd] at hone hany
    simpa [not_or] using And.intro hone hany
  split
  · rename_i hretry
    exact .goBack hc hnone hretry
  · rename_i hretry
    exact .fail hc hnone hretry

/-- The latest `%` stands before the place in the pattern, and was tried from no later place than
that in the text. -/
def Sound (s : Cursor) : Prop :=
  ∀ p v, s.retry = some (p, v) → p < s.next ∧ v ≤ s.place

/-- At the start there is no `%` to go back to. -/
theorem sound_start : start.Sound :=
  nofun

/-- A step keeps the latest `%` behind where the search stands. -/
theorem Sound.step (hs : s.Sound) (h : s.step pattern text = .inl s') : s'.Sound := by
  have hstepped := stepped_step pattern text s
  rw [h] at hstepped
  cases hstepped with
  | take =>
    intro p v hretry
    have hbefore := hs p v hretry
    exact ⟨Nat.lt_succ_of_lt hbefore.1, Nat.le_succ_of_le hbefore.2⟩
  | setOut =>
    rintro p v ⟨⟩
    exact ⟨Nat.lt_succ_self _, Nat.le_refl _⟩
  | goBack =>
    rintro p v ⟨⟩
    exact ⟨Nat.lt_succ_self _, Nat.le_refl _⟩

/-! ### What a search finds -/

/-- What going back finds. -/
def back (pattern text : List Char) (s : Cursor) : Bool :=
  match s.retry with
  | some (p, v) => fitsSomewhere (fits (pattern.drop (p + 1))) (text.drop (v + 1))
  | none => false

/-- What the search finds from a cursor on. -/
def answer (pattern text : List Char) (s : Cursor) : Bool :=
  fits (pattern.drop s.next) (fun _ => s.back pattern text) (text.drop s.place)

/-- A place in a text is a character and what follows it. -/
theorem drop_of_getElem? {cs : List Char} {i : Nat} {c : Char} (h : cs[i]? = some c) :
    cs.drop i = c :: cs.drop (i + 1) := by
  obtain ⟨hi, rfl⟩ := List.getElem?_eq_some_iff.1 h
  exact List.drop_eq_getElem_cons hi

/-- Where the pattern does not go on, the search finds what going back finds. -/
theorem answer_of_none {c : Char} (hc : text[s.place]? = some c)
    (hnone : ∀ d, pattern[s.next]? = some d → ¬(d = '_' ∨ d = c) ∧ d ≠ '%') :
    s.answer pattern text = s.back pattern text := by
  rw [answer, drop_of_getElem? hc]
  cases hnext : pattern[s.next]? with
  | none => rw [List.drop_eq_nil_of_le (List.getElem?_eq_none_iff.1 hnext), fits]
  | some d =>
    obtain ⟨hone, hany⟩ := hnone d hnext
    rw [drop_of_getElem? hnext, fits, if_neg (by simpa using hone), if_neg (by simpa using hany)]

/-- **Step.** No step changes what the search finds, and the last one says it. -/
theorem Stepped.answer_eq {r : Cursor ⊕ Bool} (h : Stepped pattern text s r) :
    s.answer pattern text = r.elim (·.answer pattern text) id := by
  cases h with
  | finish hc =>
    rw [answer, List.drop_eq_nil_of_le (List.getElem?_eq_none_iff.1 hc)]
    cases pattern.drop s.next <;> rfl
  | take hc hp hone =>
    rw [answer, drop_of_getElem? hp, drop_of_getElem? hc, fits, if_pos (by simpa using hone)]
    rfl
  | setOut hc hp hmark =>
    rw [answer, drop_of_getElem? hp, drop_of_getElem? hc, fits,
      if_neg (by simpa using Ne.symm hmark), if_pos (by decide), fitsSomewhere,
      ← drop_of_getElem? hc]
    rfl
  | goBack hc hnone hretry =>
    rw [answer_of_none hc hnone, back, hretry]
    dsimp only
    rw [fitsSomewhere_eq, List.tail_drop]
    rfl
  | fail hc hnone hretry =>
    rw [answer_of_none hc hnone, back, hretry]
    rfl

/-! ### The search ends -/

/-- What a search has left: places for a later `%` in the pattern, places in the text to try the
latest one from, and characters of the pattern. -/
def remaining (pattern text : List Char) (s : Cursor) : Nat × Nat × Nat :=
  match s.retry with
  | some (p, v) => (pattern.length - p, text.length - v, pattern.length - s.next)
  | none => (pattern.length + 1, 0, pattern.length - s.next)

/-- Every step leaves less to do. -/
theorem Sound.remaining_step (hs : s.Sound) (h : s.step pattern text = .inl s') :
    Prod.Lex (· < ·) (Prod.Lex (· < ·) (· < ·)) (s'.remaining pattern text)
      (s.remaining pattern text) := by
  have hstepped := stepped_step pattern text s
  rw [h] at hstepped
  cases hstepped with
  | take hc hp =>
    have hnext := (List.getElem?_eq_some_iff.1 hp).1
    have hless : pattern.length - (s.next + 1) < pattern.length - s.next := by omega
    unfold remaining
    cases s.retry with
    | none => exact .right _ (.right _ hless)
    | some latest => exact .right _ (.right _ hless)
  | setOut hc hp =>
    have hnext := (List.getElem?_eq_some_iff.1 hp).1
    unfold remaining
    cases hretry : s.retry with
    | none => exact .left _ _ (by omega)
    | some latest =>
      have hbefore := (hs latest.1 latest.2 hretry).1
      exact .left _ _ (by omega)
  | @goBack c p v hc _ hretry =>
    have hplace := (List.getElem?_eq_some_iff.1 hc).1
    have hbefore := (hs p v hretry).2
    rw [remaining, remaining, hretry]
    exact .right _ (.left _ _ (by omega))

/-- **The loop ends.** From where it may stand, the search ends with what it finds. -/
theorem Sound.ends {pattern text : List Char} {s : Cursor} (hs : s.Sound) :
    Ends pattern text s (s.answer pattern text) := by
  have hanswer := (stepped_step pattern text s).answer_eq
  cases hstep : s.step pattern text with
  | inr b =>
    rw [hstep] at hanswer
    exact .stop (hstep.trans (congrArg Sum.inr hanswer.symm))
  | inl s' =>
    rw [hstep] at hanswer
    rw [hanswer]
    exact .next hstep (hs.step hstep).ends
termination_by s.remaining pattern text
decreasing_by exact hs.remaining_step hstep

end Cursor

/-- **Texts without `%`.** The search for a pattern in a text without `%` ends, and it finds what
the pattern stands for. -/
theorem like_iff_matches {text : String} (h : '%' ∉ lowerChars text.toList) (pattern : String) :
    Cursor.Ends (lowerChars pattern.toList) (lowerChars text.toList) .start (like text pattern) ∧
      (like text pattern = true ↔
        Matches (lowerChars pattern.toList) (lowerChars text.toList)) :=
  ⟨Cursor.sound_start.ends, (like_iff_finds text pattern).trans (finds_iff_matches h)⟩

/-- The search goes back from the first `b` of the text, and finds the second. -/
theorem like_iff_matches_second :
    '%' ∉ lowerChars "abcAbd".toList ∧
      Cursor.Ends (lowerChars "%B_".toList) (lowerChars "abcAbd".toList) .start true ∧
      Matches (lowerChars "%B_".toList) (lowerChars "abcAbd".toList) := by
  have h : '%' ∉ lowerChars "abcAbd".toList := by decide +kernel
  have hlike : like "abcAbd" "%B_" = true := by decide +kernel
  obtain ⟨hends, hmatches⟩ := like_iff_matches h "%B_"
  rw [hlike] at hends
  exact ⟨h, hends, hmatches.1 hlike⟩

end RecordService.Text
