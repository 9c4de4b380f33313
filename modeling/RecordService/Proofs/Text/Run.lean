import RecordService.Text.Blank
import Mathlib.Data.List.TakeDrop
import Mathlib.Data.List.TakeWhile

namespace RecordService.Text

/-!
# Runs of characters

* `span_append`, `span_of_forall`: a run that ends at a character, or with the text.
* `trim_of_forall`: a text without any white space.
* `trim_ne_empty_iff`: a text that is more than white space.
-/

/-! ### Runs -/

/-- A run of characters with a property ends at the first that does not have it. -/
theorem span_append {p : Char → Bool} {cs : List Char} {c : Char} {tail : List Char}
    (hcs : ∀ d ∈ cs, p d = true) (hc : p c = false) :
    (cs ++ c :: tail).span p = (cs, c :: tail) := by
  rw [List.span_eq_takeWhile_dropWhile, List.takeWhile_append_of_pos hcs,
    List.dropWhile_append_of_pos hcs, List.takeWhile_cons_of_neg (by simp [hc]),
    List.dropWhile_cons_of_neg (by simp [hc]), List.append_nil]

/-- A text may be a single run. -/
theorem span_of_forall {p : Char → Bool} {cs : List Char} (hcs : ∀ d ∈ cs, p d = true) :
    cs.span p = (cs, []) := by
  rw [List.span_eq_takeWhile_dropWhile, List.takeWhile_eq_self_iff.2 hcs,
    List.dropWhile_eq_nil_iff.2 hcs]

/-! ### White space -/

theorem trimStart_of_forall {cs : List Char} (h : ∀ c ∈ cs, isBlank c = false) :
    trimStart cs = cs := by
  cases cs with
  | nil => rfl
  | cons c cs => exact List.dropWhile_cons_of_neg (by simp [h c List.mem_cons_self])

/-- A text without white space has none at its ends. -/
theorem trimChars_of_forall {cs : List Char} (h : ∀ c ∈ cs, isBlank c = false) :
    trimChars cs = cs := by
  have hreverse : trimStart cs.reverse = cs.reverse :=
    trimStart_of_forall fun c hc => h c (List.mem_reverse.1 hc)
  rw [trimChars, trimStart_of_forall h, trimEnd]
  exact (congrArg List.reverse hreverse).trans (List.reverse_reverse cs)

theorem trim_of_forall {s : String} (h : ∀ c ∈ s.toList, isBlank c = false) : trim s = s := by
  rw [trim, trimChars_of_forall h, String.ofList_toList]

/-- Nothing is left of white space, and of nothing else. -/
theorem trimChars_eq_nil_iff {cs : List Char} :
    trimChars cs = [] ↔ ∀ c ∈ cs, isBlank c = true := by
  have hend (ds : List Char) : trimEnd ds = [] ↔ ∀ c ∈ ds, isBlank c = true := by
    rw [trimEnd, List.reverse_eq_nil_iff, List.dropWhile_eq_nil_iff]
    exact ⟨fun h c hc => h c (List.mem_reverse.2 hc), fun h c hc => h c (List.mem_reverse.1 hc)⟩
  rw [trimChars, hend, trimStart]
  constructor
  · intro h
    -- what was dropped at the start is white space too
    rw [← List.takeWhile_append_dropWhile (p := isBlank) (l := cs), List.forall_mem_append]
    exact ⟨fun c hc => List.mem_takeWhile_imp hc, h⟩
  · exact fun h c hc => h c ((List.dropWhile_suffix isBlank).subset hc)

/-- Whether a text is more than white space. -/
def IsVisible (s : String) : Prop :=
  ∃ c ∈ s.toList, isBlank c = false

/-- Trimming leaves something exactly if there is something to see. -/
theorem trim_ne_empty_iff {s : String} : trim s ≠ "" ↔ IsVisible s := by
  rw [trim, ne_eq, String.ofList_eq_empty_iff, trimChars_eq_nil_iff, IsVisible]
  simp only [not_forall, Bool.not_eq_true, exists_prop]

end RecordService.Text
