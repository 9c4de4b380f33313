import RecordService.Proofs.Number.Decimal.Value
import RecordService.Value.Order
import Mathlib.Tactic.Positivity
import Mathlib.Tactic.Ring

namespace RecordService

/-!
# The order of values

Values of one kind compare by what they stand for: numbers by their value, identifiers by their
digits, texts without regard to letter case, points in time by the instant. For every kind but that
of doubles this is a total preorder. Doubles compare by way of decimals, which not every double has.

* `Decimal.compare_eq_units`: decimals compare as integers over a common denominator.
* `Value.compareRank`: a total preorder of all values, nulls first.
* `Value.compare?_of_isNull`, `Value.looseEq_of_isNull`: a null compares with nothing.
  `Value.compareRank_eq_lt_of_isNull`: it comes first in that order.
* `Value.compare?_eq_compareRank`: two values of one kind compare as that order has it.
-/

/-! ### What values stand for -/

namespace Decimal

/-- The numerator over the denominator that all decimals have in common. -/
def units (d : Decimal) : Int :=
  d.coefficient * 10 ^ (maxScale - d.scale)

/-- The numerator over a common denominator of two decimals, and the one over the denominator of
all decimals. -/
theorem numeratorWith_mul (a b : Decimal) :
    a.numeratorWith b * 10 ^ maxScale = a.units * (10 ^ a.scale * 10 ^ b.scale) := by
  have hscale : maxScale = (maxScale - a.scale) + a.scale :=
    (Nat.sub_add_cancel a.scale_le).symm
  calc a.coefficient * 10 ^ b.scale * 10 ^ maxScale
      = a.coefficient * 10 ^ b.scale * (10 ^ (maxScale - a.scale) * 10 ^ a.scale) := by
        rw [← pow_add, ← hscale]
    _ = a.units * (10 ^ a.scale * 10 ^ b.scale) := by
        unfold units
        ring

/-- **Decimals** compare as integers over the common denominator. -/
theorem compare_eq_units (a b : Decimal) : a.compare b = Ord.compare a.units b.units := by
  have hmax : (0 : Int) < 10 ^ maxScale := by decide
  have hboth : (0 : Int) < 10 ^ a.scale * 10 ^ b.scale := by positivity
  show Ord.compare (a.numeratorWith b) (b.numeratorWith a) = _
  -- the numerators are those over the common denominator, each side times a positive number
  rw [← cmp_eq_compare, ← cmp_eq_compare, ← cmp_mul_pos_right hmax, numeratorWith_mul,
    numeratorWith_mul, mul_comm (10 ^ b.scale), cmp_mul_pos_right hboth]

instance : Ord Decimal := ⟨compare⟩

instance : Std.TransOrd Decimal := by
  have hunits : compare = compareOn units := by
    funext a b
    exact compare_eq_units a b
  show Std.TransCmp compare
  rw [hunits]
  infer_instance

end Decimal

instance : Ord Uuid := ⟨Uuid.compare⟩

instance : Std.TransOrd Uuid :=
  inferInstanceAs (Std.TransCmp (compareOn Uuid.value))

instance : Ord Date := ⟨Date.compare⟩

instance : Std.TransOrd Date :=
  inferInstanceAs (Std.TransCmp
    (compareLex (compareOn Date.year) (compareLex (compareOn Date.month) (compareOn Date.day))))

instance : Ord Timestamp := ⟨Timestamp.compare⟩

instance : Std.TransOrd Timestamp :=
  inferInstanceAs (Std.TransCmp
    (compareLex (compareOn Timestamp.instant) (compareOn Timestamp.nanosecond)))

/-! ### Ranks -/

namespace Value

/-- The number that a value is by its kind; a text is none. -/
def numberRank : Value → Option Decimal
  | text _ => none
  | double _ => none
  | v => v.number?

/-- The identifier that a value is by its kind; a text is none. -/
def identifierRank : Value → Option Uuid
  | text _ => none
  | v => v.identifier?

/-- The text of a value, in small letters. -/
def textRank : Value → Option String
  | text s => s.map Text.lower
  | _ => none

/-- The date that a value is. -/
def dateRank : Value → Option Date
  | date d => d
  | _ => none

/-- The point in time that a value is. -/
def instantRank : Value → Option Timestamp
  | timestamp t => t
  | _ => none

/-- The order of values by their ranks. A value has the rank of its kind only, a null has none and
comes first. -/
def compareRank : Value → Value → Ordering :=
  compareLex (compareOn numberRank) <| compareLex (compareOn identifierRank) <|
    compareLex (compareOn textRank) <| compareLex (compareOn dateRank) (compareOn instantRank)

instance : Std.TransCmp compareRank :=
  inferInstanceAs (Std.TransCmp (compareLex _ _))

/-- The ranks are compared one after the other. -/
theorem compareRank_eq (v w : Value) :
    v.compareRank w = (Ord.compare v.numberRank w.numberRank).then
      ((Ord.compare v.identifierRank w.identifierRank).then
        ((Ord.compare v.textRank w.textRank).then
          ((Ord.compare v.dateRank w.dateRank).then
            (Ord.compare v.instantRank w.instantRank)))) :=
  rfl

/-! ### Nulls -/

theorem exists_of_isNull {v : Value} (hv : v.isNull = true) :
    ∃ kind : ValueKind, v = kind.nullValue :=
  ⟨v.kind, eq_of_beq hv⟩

/-- A null stands for nothing. -/
theorem views_of_isNull {v : Value} (hv : v.isNull = true) :
    v.identifier? = none ∧ v.number? = none := by
  obtain ⟨kind, rfl⟩ := exists_of_isNull hv
  cases kind <;> exact ⟨rfl, rfl⟩

/-- A null compares with nothing. -/
theorem compare?_of_isNull {v w : Value} (h : v.isNull = true ∨ w.isNull = true) :
    v.compare? w = none := by
  unfold compare?
  split
  -- two values that compare as identifiers or as numbers, in the last case
  case h_13 =>
    unfold compareViews?
    rcases h with hv | hw
    · rw [(views_of_isNull hv).1, (views_of_isNull hv).2]
    · rw [(views_of_isNull hw).1, (views_of_isNull hw).2]
      simp
  all_goals simp [isNull, toNull, kind, ValueKind.nullValue] at h

/-- A null equals nothing. -/
theorem looseEq_of_isNull {v w : Value} (h : v.isNull = true ∨ w.isNull = true) :
    v.looseEq w = false := by
  rw [looseEq, compare?_of_isNull h]
  rfl

/-- A null has no rank. -/
theorem ranks_of_isNull {v : Value} (hv : v.isNull = true) :
    v.numberRank = none ∧ v.identifierRank = none ∧ v.textRank = none ∧ v.dateRank = none ∧
      v.instantRank = none := by
  obtain ⟨kind, rfl⟩ := exists_of_isNull hv
  cases kind <;> exact ⟨rfl, rfl, rfl, rfl, rfl⟩

/-- Nulls have the same place. -/
theorem compareRank_eq_eq_of_isNull {v w : Value} (hv : v.isNull = true) (hw : w.isNull = true) :
    v.compareRank w = .eq := by
  obtain ⟨hv₁, hv₂, hv₃, hv₄, hv₅⟩ := ranks_of_isNull hv
  obtain ⟨hw₁, hw₂, hw₃, hw₄, hw₅⟩ := ranks_of_isNull hw
  rw [compareRank_eq, hv₁, hv₂, hv₃, hv₄, hv₅, hw₁, hw₂, hw₃, hw₄, hw₅]
  rfl

/-- A null comes before a value that is none, unless that is a double. -/
theorem compareRank_eq_lt_of_isNull {v w : Value} (hv : v.isNull = true) (hw : w.isNull = false)
    (hdouble : w.kind ≠ .double) : v.compareRank w = .lt := by
  obtain ⟨hv₁, hv₂, hv₃, hv₄, hv₅⟩ := ranks_of_isNull hv
  rw [compareRank_eq, hv₁, hv₂, hv₃, hv₄, hv₅]
  cases w
  case null => exact absurd hw (by decide)
  case double => exact absurd rfl hdouble
  all_goals
    rename_i y
    cases y with
    | none => exact absurd hw (by decide)
    | some y => rfl

/-! ### Values of one kind -/

/-- Truth values compare as numbers. -/
theorem compare_bool (a b : Bool) :
    Ord.compare a b =
      Ord.compare (Decimal.ofInt32 (if a then 1 else 0)) (.ofInt32 (if b then 1 else 0)) := by
  cases a <;> cases b <;> decide

/-- **One kind.** Two values of the same kind, neither of them a null, compare by their ranks. -/
theorem compare?_eq_compareRank {v w : Value} (hv : v.isNull = false) (hw : w.isNull = false)
    (hkind : v.kind = w.kind) (hdouble : v.kind ≠ .double) :
    v.compare? w = some (v.compareRank w) := by
  rw [compareRank_eq]
  cases v <;> cases w <;> simp only [kind, reduceCtorEq] at hkind
  case null.null => exact absurd hv (by decide)
  case double.double => exact absurd rfl hdouble
  -- what is left are two values that are both present
  all_goals
    rename_i x y
    cases x with
    | none => exact absurd hv (by decide)
    | some x => ?_
    cases y with
    | none => exact absurd hw (by decide)
    | some y => ?_
  case timestamp.timestamp => rfl
  case boolean.boolean => exact congrArg some ((compare_bool x y).trans Ordering.then_eq.symm)
  all_goals exact congrArg some Ordering.then_eq.symm

end Value

end RecordService
