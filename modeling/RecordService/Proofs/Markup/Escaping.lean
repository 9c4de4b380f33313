import RecordService.Markup.Reader
import RecordService.Proofs.Text.Run

namespace RecordService.Element

/-!
# Escaped texts

A text that is escaped has none of the characters that end a value or begin an element, and the
reader gets it back from its entities.

* `escape_spec`: which characters an escaped text has.
* `decode_escape`: the entities of an escaped text stand for it.
-/

/-! ### Characters -/

/-- A character that stands for itself. -/
def IsPlain (c : Char) : Prop :=
  c ≠ '&' ∧ c ≠ '<' ∧ c ≠ '>' ∧ c ≠ '"' ∧ c ≠ '\''

/-- A character is escaped by an entity of five or fewer letters, or it stands for itself. -/
theorem escapeChar_cases (c : Char) :
    (∃ name, escapeChar c = '&' :: name ++ [';'] ∧ entity? name = some c ∧
      ';' ∉ name ∧ '<' ∉ name ∧ '"' ∉ name) ∨
    (escapeChar c = [c] ∧ IsPlain c) := by
  unfold escapeChar
  by_cases hamp : c = '&'
  · subst hamp
    exact .inl ⟨"amp".toList, by decide, by decide, by decide⟩
  rw [if_neg hamp]
  by_cases hlt : c = '<'
  · subst hlt
    exact .inl ⟨"lt".toList, by decide, by decide, by decide⟩
  rw [if_neg hlt]
  by_cases hgt : c = '>'
  · subst hgt
    exact .inl ⟨"gt".toList, by decide, by decide, by decide⟩
  rw [if_neg hgt]
  by_cases hquot : c = '"'
  · subst hquot
    exact .inl ⟨"quot".toList, by decide, by decide, by decide⟩
  rw [if_neg hquot]
  by_cases hapos : c = '\''
  · subst hapos
    exact .inl ⟨"apos".toList, by decide, by decide, by decide⟩
  rw [if_neg hapos]
  exact .inr ⟨rfl, hamp, hlt, hgt, hquot, hapos⟩

/-- An escaped character neither ends a quoted value nor begins an element. -/
theorem escapeChar_spec {c d : Char} (h : d ∈ escapeChar c) : d ≠ '<' ∧ d ≠ '"' := by
  rcases escapeChar_cases c with ⟨name, heq, -, hname⟩ | ⟨heq, hplain⟩
  · rw [heq] at h
    simp only [List.cons_append, List.mem_cons, List.mem_append, List.not_mem_nil,
      or_false] at h
    rcases h with rfl | h | rfl
    · decide
    · exact ⟨fun heq => hname.2.1 (heq ▸ h), fun heq => hname.2.2 (heq ▸ h)⟩
    · decide
  · rw [heq, List.mem_singleton] at h
    rw [h]
    exact ⟨hplain.2.1, hplain.2.2.2.1⟩

/-- An escaped text neither ends a quoted value nor begins an element. -/
theorem escape_spec {s : String} {d : Char} (h : d ∈ escape s) : d ≠ '<' ∧ d ≠ '"' := by
  obtain ⟨c, -, hd⟩ := List.mem_flatMap.1 h
  exact escapeChar_spec hd

/-! ### Entities -/

/-- A character at the start of an escaped text is read back. -/
theorem decodeFrom_escapeChar (whole : List Char) (fuel : Nat) (c : Char) (cs : List Char) :
    decodeFrom whole (fuel + 1) (escapeChar c ++ cs) =
      (decodeFrom whole fuel cs).map (c :: ·) := by
  rcases escapeChar_cases c with ⟨name, heq, hentity, hname⟩ | ⟨heq, hplain⟩
  · have hspan : (name ++ ';' :: cs).span (· != ';') = (name, ';' :: cs) :=
      Text.span_append (fun d hd => bne_iff_ne.2 fun heq => hname.1 (heq ▸ hd)) (by decide)
    rw [heq]
    simp only [List.cons_append, List.append_assoc, List.nil_append, decodeFrom, if_true, hspan,
      hentity]
    cases decodeFrom whole fuel cs <;> rfl
  · rw [heq]
    simp only [List.cons_append, List.nil_append, decodeFrom, if_neg hplain.1]
    cases decodeFrom whole fuel cs <;> rfl

theorem one_le_length_escapeChar (c : Char) : 1 ≤ (escapeChar c).length := by
  rcases escapeChar_cases c with ⟨name, heq, -, -⟩ | ⟨heq, -⟩
  · rw [heq]
    simp
  · rw [heq]
    exact Nat.le_refl _

/-- An escaped text is read back with as many steps as it has characters. -/
theorem decodeFrom_escape (whole cs : List Char) (fuel : Nat)
    (h : (cs.flatMap escapeChar).length ≤ fuel) :
    decodeFrom whole fuel (cs.flatMap escapeChar) = .ok cs := by
  induction cs generalizing fuel with
  | nil => cases fuel <;> rfl
  | cons c cs ih =>
    rw [List.flatMap_cons] at h ⊢
    have hone := one_le_length_escapeChar c
    rw [List.length_append] at h
    obtain ⟨fuel, rfl⟩ : ∃ n, fuel = n + 1 := ⟨fuel - 1, by omega⟩
    rw [decodeFrom_escapeChar, ih fuel (by omega)]
    rfl

/-- **Entities.** What stands for a text is read as that text. -/
theorem decode_escape (s : String) : decode (escape s) = .ok s.toList :=
  decodeFrom_escape _ _ _ (Nat.le_refl _)

end RecordService.Element
