import RecordService.Proofs.Filter.Complement
import RecordService.Proofs.Value.Order

namespace RecordService

/-!
# Comparison from both sides

Comparison answers with the opposite order when its sides change places, whatever kinds of values
meet there. So equality by comparison is symmetric, and a value that compares with itself equals
itself: all values do but nulls and the doubles that are out of the range of decimals.

* `Value.compare?_swap`: a comparison and the one from the other side.
* `Value.compare?_antisymm`: comparison is antisymmetric, equality symmetric.
* `Value.looseEq_self_iff`: the values that equal themselves.
* `Attribute.holdsFor_itself_iff`: conditions on a kept value with that value as operand.
-/

namespace Value

/-! ### Antisymmetry -/

/-- Values that compare as identifiers or as numbers do so from both sides. -/
theorem compareViews?_swap (v w : Value) :
    v.compareViews? w = (w.compareViews? v).map Ordering.swap := by
  have hidentifiers (x y : Uuid) : x.compare y = (y.compare x).swap := Std.OrientedOrd.eq_swap
  have hdecimals (x y : Decimal) : x.compare y = (y.compare x).swap := Std.OrientedOrd.eq_swap
  unfold compareViews?
  cases v.identifier? <;> cases w.identifier?
  case some.some x y => exact congrArg some (hidentifiers x y)
  -- numbers decide where not both are identifiers
  all_goals
    cases v.number? <;> cases w.number?
    case some.some x y => exact congrArg some (hdecimals x y)
    all_goals rfl

/-- **Both sides.** A comparison is the one from the other side with the opposite order, and there
is none if there is none from the other side. -/
theorem compare?_swap (v w : Value) : v.compare? w = (w.compare? v).map Ordering.swap := by
  have htwice (o : Option Ordering) : o = (o.map Ordering.swap).map Ordering.swap := by
    cases o with
    | none => rfl
    | some o => exact congrArg some Ordering.swap_swap.symm
  have hdates (x y : Date) : x.compare y = (y.compare x).swap :=
    @Std.OrientedOrd.eq_swap Date _ _ x y
  unfold compare?
  -- a case of the comparison meets its mirror image on the other side
  split
  case h_1 a b => exact congrArg some Std.OrientedOrd.eq_swap
  case h_2 a b => exact congrArg some Std.OrientedOrd.eq_swap
  case h_3 a b => exact congrArg some (hdates a b)
  case h_4 a b => exact congrArg some (@Std.OrientedOrd.eq_swap Timestamp _ _ a b)
  case h_5 a b => exact congrArg some (hdates a b.date)
  case h_6 a b => exact congrArg some (hdates a.date b)
  -- a text is read as what it is compared with, and only from that side
  case h_7 => exact htwice _
  case h_8 => rfl
  case h_9 => exact htwice _
  case h_10 => rfl
  case h_11 => exact htwice _
  case h_12 => rfl
  case h_13 =>
    split
    case h_13 => exact compareViews?_swap v w
    -- the mirror image of the last case is the last case
    all_goals simp_all

/-- Loose equality goes both ways. -/
theorem looseEq_comm (v w : Value) : v.looseEq w = w.looseEq v := by
  rw [looseEq, looseEq, compare?_swap v w]
  cases w.compare? v with
  | none => rfl
  | some o => cases o <;> rfl

/-- **Antisymmetry.** Comparison from the other side is comparison with the opposite order, and
equality by comparison is symmetric. -/
theorem compare?_antisymm (v w : Value) :
    v.compare? w = (w.compare? v).map Ordering.swap ∧ v.looseEq w = w.looseEq v :=
  ⟨compare?_swap v w, looseEq_comm v w⟩

/-! ### Values that equal themselves -/

/-- A value equals itself if it compares with itself. -/
theorem looseEq_self_iff_isSome (v : Value) : v.looseEq v = true ↔ (v.compare? v).isSome := by
  have hswap := compare?_swap v v
  rw [looseEq, beq_iff_eq]
  cases hself : v.compare? v with
  | none => simp
  | some o =>
    -- the only order that is its own opposite is equality
    rw [hself] at hswap
    cases o
    case eq => simp
    all_goals exact absurd hswap (by decide)

/-- A value that is no null compares with itself unless it is a double out of range. -/
theorem isSome_compare?_self_iff {v : Value} (hv : v.isNull = false) :
    (v.compare? v).isSome ↔ v.InRange := by
  by_cases hdouble : v.kind = .double
  · rw [isSome_compare?_double hv hv hdouble hdouble, and_self]
  · exact iff_of_true (isSome_compare?_of_family hv hv rfl hdouble) (inRange_of_kind_ne hdouble)

/-- The values that equal themselves. -/
theorem looseEq_self_iff {v : Value} : v.looseEq v = true ↔ v.isNull = false ∧ v.InRange := by
  cases hv : v.isNull with
  | true => simp [looseEq_of_isNull (.inl hv)]
  | false => rw [looseEq_self_iff_isSome, isSome_compare?_self_iff hv, and_iff_right rfl]

/-- The largest double below `2 ^ 96`. -/
def Sample.largest : Value :=
  .double (some ⟨0x45efffffffffffff⟩)

end Value

/-! ### Conditions on a kept value -/

namespace Attribute

/-- **A kept value equals itself.** Of a value that an attribute takes and that is no null, the
condition holds that it equals itself, and not the one that it does not, unless it is a double out
of the range of decimals. An attribute of another type has no such values. -/
theorem holdsFor_itself_iff {a : Attribute} {v : Value} (haccepts : a.accepts v = true)
    (hv : v.isNull = false) (owner : Option String) (name : String) :
    ((Condition.mk owner name .equal [v]).holdsFor v = true ↔ v.InRange) ∧
      ((Condition.mk owner name .notEqual [v]).holdsFor v = true ↔ ¬v.InRange) ∧
      (a.type ≠ .double → v.InRange) := by
  have hself : v.looseEq v = true ↔ v.InRange := by
    rw [Value.looseEq_self_iff, and_iff_right hv]
  have hequal : (Condition.mk owner name .equal [v]).holdsFor v = v.looseEq v := by
    rw [Condition.holdsFor, hv]
    rfl
  have hnotEqual : (Condition.mk owner name .notEqual [v]).holdsFor v = !v.looseEq v := by
    rw [Condition.holdsFor, hv]
    rfl
  refine ⟨?_, ?_, fun htype => ?_⟩
  · rw [hequal, hself]
  · rw [hnotEqual, Bool.not_eq_true', ← Bool.not_eq_true, hself]
  · exact Value.inRange_of_kind_ne fun hkind => htype ((kind_eq_double_iff hv haccepts).1 hkind)

/-- The largest double in range equals itself. -/
theorem holdsFor_itself_iff_largest :
    (ofType "reading" .double).accepts Value.Sample.largest = true ∧
      Value.Sample.largest.isNull = false ∧
      (Condition.mk none "reading" .equal [Value.Sample.largest]).holdsFor Value.Sample.largest =
        true ∧
      (Condition.mk none "reading" .notEqual [Value.Sample.largest]).holdsFor
        Value.Sample.largest = false := by
  have haccepts : (ofType "reading" .double).accepts Value.Sample.largest = true := by
    decide +kernel
  have hv : Value.Sample.largest.isNull = false := by decide +kernel
  have hrange : Value.Sample.largest.InRange := Value.inRange_double.2 (by decide +kernel)
  obtain ⟨hequal, hnotEqual, -⟩ := holdsFor_itself_iff haccepts hv none "reading"
  exact ⟨haccepts, hv, hequal.2 hrange, Bool.eq_false_iff.2 fun h => hnotEqual.1 h hrange⟩

/-- A reading of `10 ^ 29`, which is a number, does not equal itself. -/
theorem holdsFor_itself_huge :
    (ofType "reading" .double).accepts Filter.Target.Sample.huge = true ∧
      Filter.Target.Sample.huge.isNull = false ∧
      (∀ x, Filter.Target.Sample.huge = .double (some x) → x.isNaN = false) ∧
      (Condition.mk none "reading" .equal [Filter.Target.Sample.huge]).holdsFor
        Filter.Target.Sample.huge = false ∧
      (Condition.mk none "reading" .notEqual [Filter.Target.Sample.huge]).holdsFor
        Filter.Target.Sample.huge = true := by
  refine ⟨by decide +kernel, by decide +kernel, ?_, by decide +kernel, by decide +kernel⟩
  rintro x ⟨⟩
  decide +kernel

end Attribute

end RecordService
