import RecordService.Proofs.Coercion.Admitted
import RecordService.Proofs.Filter.Meaning
import RecordService.Proofs.Number.Decimal.Binary
import RecordService.Store

namespace RecordService

/-!
# Where the inverse operator is the complement

Of a condition and the one with the inverse operator exactly one holds for a value that is no
null, unless they go by order and there is no comparison. For the values that a store keeps in an
attribute and the operands that a filter gets from it, that happens in one place: doubles compare
as decimals, and those from `2 ^ 96` on are none.

* `Condition.ne_inverse_iff`: exactly one holds if and only if there is a comparison.
* `Value.isSome_compare?_of_family`: values of one family compare, doubles aside.
* `Attribute.isSome_compare?_iff`: when two values that an attribute takes compare.
* `Filter.Target.accepts_operand`: the operand of a compiled condition by order.
* `Filter.Target.complement_condition`: where the inverse of a compiled condition is its
  complement.
-/

/-! ### Conditions -/

/-- The inverse of a comparison by order is one, too. -/
theorem Operator.isOrdering_inverse (o : Operator) : o.inverse.isOrdering = o.isOrdering := by
  cases o <;> rfl

namespace Condition

/-- Without a comparison, neither a condition by order nor its inverse holds. -/
theorem holdsForNonNull_of_compare?_eq_none {c : Condition} {v : Value}
    (ho : c.operator.isOrdering = true) (hnone : v.compare? c.operand = none) :
    c.holdsForNonNull v = false := by
  have hcompares : ∀ p, v.compares p c.operand = false := by
    intro p
    rw [Value.compares, hnone, Option.any_none]
  unfold holdsForNonNull
  cases hoperator : c.operator with
  | greaterThan => exact hcompares _
  | greaterEqual => exact hcompares _
  | lessThan => exact hcompares _
  | lessEqual => exact hcompares _
  | _ => exact absurd (hoperator ▸ ho) (by decide)

/-- Exactly one of a condition and its inverse holds for a value that is no null if and only if
there is a comparison wherever they need one. -/
theorem ne_inverse_iff {c : Condition} {v : Value} (hv : v.isNull = false) :
    c.holdsFor v ≠ (c.withOperator c.operator.inverse).holdsFor v ↔
      (c.operator.isOrdering = true → (v.compare? c.operand).isSome) := by
  have hnonNull : ∀ c : Condition, c.holdsFor v = c.holdsForNonNull v := by
    intro c
    rw [holdsFor, hv]
    rfl
  rw [hnonNull, hnonNull]
  constructor
  · intro hne ho
    rw [Option.isSome_iff_ne_none]
    intro hnone
    have hinverse : (c.withOperator c.operator.inverse).operator.isOrdering = true :=
      (Operator.isOrdering_inverse _).trans ho
    apply hne
    rw [holdsForNonNull_of_compare?_eq_none ho hnone,
      holdsForNonNull_of_compare?_eq_none hinverse hnone]
  · intro hsome
    rw [holdsForNonNull_inverse hv fun ho _ => hsome ho]
    exact (Bool.not_ne_self _).symm

end Condition

/-! ### Values that compare -/

/-- The kind that stands for all kinds whose values compare with each other: dates compare with
points in time. -/
def ValueKind.family : ValueKind → ValueKind
  | date => .timestamp
  | kind => kind

namespace Value

/-- A value is no double out of the range of decimals, by which doubles compare. -/
def InRange (v : Value) : Prop :=
  ∀ x, v = .double (some x) → x.isFinite = true ∧ x.ratio.1 / x.ratio.2 < 2 ^ 96

/-- Only doubles may be out of the range of decimals. -/
theorem inRange_of_kind_ne {v : Value} (h : v.kind ≠ .double) : v.InRange := by
  rintro x rfl
  exact absurd rfl h

/-- A double is in range exactly if it has a decimal. -/
theorem inRange_double {x : Binary64} :
    InRange (.double (some x)) ↔ (Decimal.ofBinary64? x).isSome := by
  rw [Decimal.isSome_ofBinary64?_iff]
  refine ⟨fun h => h x rfl, fun h y hy => ?_⟩
  cases hy
  exact h

/-- A double that is no null is a number. -/
theorem exists_of_kind_eq_double {v : Value} (hv : v.isNull = false) (hkind : v.kind = .double) :
    ∃ x, v = .double (some x) := by
  cases v <;> simp only [kind, reduceCtorEq] at hkind
  rename_i x
  cases x with
  | none => exact absurd hv (by decide)
  | some x => exact ⟨x, rfl⟩

/-- Values that are no identifiers compare where both are numbers. -/
theorem isSome_compareViews? {v w : Value} (hv : v.identifier? = none) :
    (v.compareViews? w).isSome ↔ v.number?.isSome ∧ w.number?.isSome := by
  unfold compareViews?
  rw [hv]
  cases v.number? with
  | none => simp
  | some x => cases w.number? <;> simp

/-- Two doubles compare if both are in range. -/
theorem isSome_compare?_double {v w : Value} (hv : v.isNull = false) (hw : w.isNull = false)
    (hvkind : v.kind = .double) (hwkind : w.kind = .double) :
    (v.compare? w).isSome ↔ v.InRange ∧ w.InRange := by
  obtain ⟨x, rfl⟩ := exists_of_kind_eq_double hv hvkind
  obtain ⟨y, rfl⟩ := exists_of_kind_eq_double hw hwkind
  rw [inRange_double, inRange_double]
  exact isSome_compareViews? (v := .double (some x)) rfl

/-- Two values of the same family compare, if neither is a null and they are no doubles. -/
theorem isSome_compare?_of_family {v w : Value} (hv : v.isNull = false) (hw : w.isNull = false)
    (hfamily : v.kind.family = w.kind.family) (hdouble : v.kind ≠ .double) :
    (v.compare? w).isSome := by
  cases v <;> cases w <;> simp only [kind, ValueKind.family, reduceCtorEq] at hfamily
  case null.null => exact absurd hv (by decide)
  case double.double => exact absurd rfl hdouble
  -- what is left are two values that are both present
  all_goals
    rename_i x y
    cases x with
    | none => exact absurd hv (by decide)
    | some x =>
      cases y with
      | none => exact absurd hw (by decide)
      | some y => rfl

end Value

/-! ### Values of an attribute -/

namespace Attribute

variable {a : Attribute} {v w : Value}

/-- A value that an attribute takes is of the family of its type. -/
theorem family_of_accepts (hv : v.isNull = false) (h : a.accepts v = true) :
    v.kind.family = a.type.kind.family := by
  cases v with
  | null => exact absurd hv (by decide)
  | date d =>
    have htype : a.type = .dateTime := eq_of_beq h
    rw [htype]
    rfl
  | _ => exact congrArg ValueKind.family (eq_of_beq h)

/-- A value that an attribute takes is a double exactly if the attribute is one of doubles. -/
theorem kind_eq_double_iff (hv : v.isNull = false) (h : a.accepts v = true) :
    v.kind = .double ↔ a.type = .double := by
  have hfamily := family_of_accepts hv h
  have hkind : ∀ k : ValueKind, k = .double ↔ k.family = .double := by
    intro k
    cases k <;> simp [ValueKind.family]
  rw [hkind, hfamily]
  cases a.type <;> simp [AttributeType.kind, ValueKind.family]

/-- **Comparison in an attribute.** Two values that an attribute takes compare unless one of them
is a double out of range. -/
theorem isSome_compare?_iff (hv : v.isNull = false) (hw : w.isNull = false)
    (hvaccepts : a.accepts v = true) (hwaccepts : a.accepts w = true) :
    (v.compare? w).isSome ↔ v.InRange ∧ w.InRange := by
  have hkinds : v.kind = .double ↔ w.kind = .double :=
    (kind_eq_double_iff hv hvaccepts).trans (kind_eq_double_iff hw hwaccepts).symm
  by_cases hkind : v.kind = .double
  · exact Value.isSome_compare?_double hv hw hkind (hkinds.1 hkind)
  · have hfamily : v.kind.family = w.kind.family :=
      (family_of_accepts hv hvaccepts).trans (family_of_accepts hw hwaccepts).symm
    have hcompares := Value.isSome_compare?_of_family hv hw hfamily hkind
    have hwkind : w.kind ≠ .double := fun h => hkind (hkinds.2 h)
    exact ⟨fun _ => ⟨Value.inRange_of_kind_ne hkind, Value.inRange_of_kind_ne hwkind⟩,
      fun _ => hcompares⟩

/-- A store takes what coercion makes. -/
theorem accepts_of_admits (h : a.Admits w) : a.accepts w = true := by
  cases h with
  | empty =>
    rw [AttributeType.emptyValue]
    cases htype : a.type <;>
      simp [AttributeType.kind, ValueKind.nullValue, accepts, Value.kind, htype]
  | date hkind =>
    have htype : a.type = .dateTime := by
      cases ht : a.type <;> simp only [ht, AttributeType.kind, reduceCtorEq] at hkind
      rfl
    exact beq_iff_eq.2 htype
  | text hkind => exact beq_iff_eq.2 hkind.symm
  | int32 hkind => exact beq_iff_eq.2 hkind.symm
  | int64 hkind => exact beq_iff_eq.2 hkind.symm
  | double hkind => exact beq_iff_eq.2 hkind.symm
  | decimal hkind => exact beq_iff_eq.2 hkind.symm
  | money hkind => exact beq_iff_eq.2 hkind.symm
  | boolean hkind => exact beq_iff_eq.2 hkind.symm
  | timestamp hkind => exact beq_iff_eq.2 hkind.symm
  | choice hkind => exact beq_iff_eq.2 hkind.symm
  | reference hkind => exact beq_iff_eq.2 hkind.symm
  | uuid hkind => exact beq_iff_eq.2 hkind.symm

end Attribute

/-! ### Compiled conditions -/

namespace Filter

/-- The conditions that a compiled condition consists of. -/
def Compiled.emitted : Compiled → List Condition
  | .condition c => [c]
  | .group f => f.conditions

/-- A condition is compiled to itself or to its inverse, and under negation to a test for null
beside it. -/
theorem Compiled.mem_emitted_ofCondition {c c₀ : Condition} {negated : Bool}
    (h : c ∈ (ofCondition c₀ negated).emitted) :
    c = c₀ ∨ c = c₀.withOperator c₀.operator.inverse ∨ c.operator = .null := by
  unfold ofCondition at h
  split at h
  · exact .inl (List.mem_singleton.1 h)
  · split at h
    · exact .inr (.inl (List.mem_singleton.1 h))
    · rcases List.mem_cons.1 h with h | h
      · exact .inr (.inl h)
      · rw [List.mem_singleton.1 h]
        exact .inr (.inr rfl)

namespace Target

variable {t : Target} {name : String} {operator : Operator} {operand : Json} {negated : Bool}
  {r : Compiled} {c : Condition}

/-- The link that a condition is about. -/
def ownerOf (t : Target) (name : String) : Option String :=
  (splitOwner name).1 <|> t.owner

/-- Whether a condition is about the filtered entity, so that its values have a type. -/
def isTyped (t : Target) (name : String) : Bool :=
  (t.ownerOf name).isNone || t.ownerOf name == t.owner

/-- The attribute by which the values of a condition are typed. -/
def attribute? (t : Target) (name : String) : Option Attribute :=
  if t.isTyped name then t.metadata.bind (·.attribute? (splitOwner name).2) else none

/-- What is compiled is a condition with the operands that were read. -/
theorem condition_eq_ok (h : t.condition name operator operand negated = .ok r) :
    ∃ operator' values,
      operands (splitOwner name).2 operator operand
          (t.valueFor (t.isTyped name) (splitOwner name).2) = .ok (operator', values) ∧
        r = Compiled.ofCondition
          ⟨t.ownerOf name, (splitOwner name).2, operator', values⟩ negated := by
  obtain ⟨⟨operator', values⟩, hoperands, hr⟩ := Answer.bind_eq_ok.1 h
  exact ⟨operator', values, hoperands, (Except.ok.inj hr).symm⟩

/-- A pattern keeps its operator. -/
theorem operator_of_pattern {o operator' : Operator} {values : List Value}
    (h : operands.pattern name operand o = .ok (operator', values)) : operator' = o := by
  unfold operands.pattern at h
  split at h
  · cases h
    rfl
  · exact nomatch h

/-- An operator of order has one operand, which is no null. -/
theorem operands_of_isOrdering {toValue : Json → Answer Value} {operator' : Operator}
    {values : List Value}
    (h : operands name operator operand toValue = .ok (operator', values))
    (ho : operator'.isOrdering = true) :
    ∃ j w, toValue j = .ok w ∧ w.isNull = false ∧ values = [w] := by
  unfold operands at h
  split at h
  · cases h
    exact nomatch ho
  · cases h
    exact nomatch ho
  · obtain ⟨ws, -, h⟩ := Answer.bind_eq_ok.1 h
    cases h
    exact nomatch ho
  · obtain ⟨ws, -, h⟩ := Answer.bind_eq_ok.1 h
    cases h
    exact nomatch ho
  · exact absurd ho (by rw [operator_of_pattern h]; decide)
  · exact absurd ho (by rw [operator_of_pattern h]; decide)
  · split at h
    · exact nomatch h
    · obtain ⟨w, hw, h⟩ := Answer.bind_eq_ok.1 h
      -- of a null only a test for null can be made
      cases hnull : w.isNull with
      | false =>
        simp only [hnull, Bool.not_false, if_true] at h
        cases h
        exact ⟨_, w, hw, hnull, rfl⟩
      | true =>
        simp only [hnull, Bool.not_true, Bool.false_eq_true, if_false] at h
        split at h
        · cases h
          exact nomatch ho
        · split at h
          · cases h
            exact nomatch ho
          · exact nomatch h

/-- The operand of a compiled condition by order is a value that is no null. -/
theorem operand_of_isOrdering (h : t.condition name operator operand negated = .ok r)
    (hc : c ∈ r.emitted) (ho : c.operator.isOrdering = true) :
    ∃ j, t.valueFor (t.isTyped name) (splitOwner name).2 j = .ok c.operand ∧
      c.operand.isNull = false := by
  obtain ⟨operator', values, hoperands, rfl⟩ := condition_eq_ok h
  rcases Compiled.mem_emitted_ofCondition hc with rfl | rfl | hnull
  · obtain ⟨j, w, hj, hw, rfl⟩ := operands_of_isOrdering hoperands ho
    exact ⟨j, hj, hw⟩
  · rw [Condition.withOperator, Operator.isOrdering_inverse] at ho
    obtain ⟨j, w, hj, hw, rfl⟩ := operands_of_isOrdering hoperands ho
    exact ⟨j, hj, hw⟩
  · exact absurd ho (by rw [hnull]; decide)

/-- Where an attribute types a condition, the operand by order is one that the attribute takes. -/
theorem accepts_operand {a : Attribute} (ha : t.attribute? name = some a)
    (h : t.condition name operator operand negated = .ok r) (hc : c ∈ r.emitted)
    (ho : c.operator.isOrdering = true) :
    a.accepts c.operand = true ∧ c.operand.isNull = false := by
  obtain ⟨j, hj, hnull⟩ := operand_of_isOrdering h hc ho
  refine ⟨?_, hnull⟩
  unfold attribute? at ha
  split at ha
  · rename_i htyped
    obtain ⟨e, he, hattribute⟩ := Option.bind_eq_some_iff.1 ha
    have hcoerce : a.coerceJson j = .ok c.operand := by
      rw [valueFor, if_pos htyped, valueOf, he] at hj
      dsimp only at hj
      rwa [hattribute] at hj
    exact Attribute.accepts_of_admits (Attribute.admits_of_coerceJson hcoerce)
  · exact nomatch ha

/-- **The inverse of a compiled condition.** For a value that is no null, exactly one of a compiled
condition and its inverse holds, if and only if there is a comparison wherever they go by order. For
a value that the attribute takes by which the condition was typed, this fails just for doubles out
of the range of decimals. -/
theorem complement_condition {v : Value}
    (h : t.condition name operator operand negated = .ok r) (hc : c ∈ r.emitted)
    (hv : v.isNull = false) :
    (c.holdsFor v ≠ (c.withOperator c.operator.inverse).holdsFor v ↔
      (c.operator.isOrdering = true → (v.compare? c.operand).isSome)) ∧
    ∀ a, t.attribute? name = some a → a.accepts v = true →
      (c.holdsFor v ≠ (c.withOperator c.operator.inverse).holdsFor v ↔
        (c.operator.isOrdering = true → v.InRange ∧ c.operand.InRange)) := by
  refine ⟨Condition.ne_inverse_iff hv, fun a ha haccepts => ?_⟩
  rw [Condition.ne_inverse_iff hv]
  refine forall_congr' fun ho => ?_
  obtain ⟨hoperand, hnull⟩ := accepts_operand ha h hc ho
  exact Attribute.isSome_compare?_iff hv hnull haccepts hoperand

namespace Sample

/-- A measure whose reading is a double. -/
def measure : Entity :=
  (Entity.ofName "measure").declare (.ofType "reading" .double)

/-- The condition that the reading is more than one. -/
def moreThanOne : Condition :=
  ⟨none, "reading", .greaterThan, [.double (some ⟨0x3ff0000000000000⟩)]⟩

/-- The double nearest to `10 ^ 29`. -/
def huge : Value :=
  .double (some ⟨0x45f431e0fae6d721⟩)

/-- The double two. -/
def two : Value :=
  .double (some ⟨0x4000000000000000⟩)

end Sample

/-- Two is more than one, and is not one at most, as the negated condition says. -/
theorem complement_condition_two :
    ∃ r, (Target.ofEntity Sample.measure).condition "reading" .greaterThan (.int 1) true = .ok r ∧
      Sample.moreThanOne.withOperator .lessEqual ∈ r.emitted ∧
      (Attribute.ofType "reading" .double).accepts Sample.two = true ∧
      (Sample.moreThanOne.withOperator .lessEqual).holdsFor Sample.two ≠
        Sample.moreThanOne.holdsFor Sample.two := by
  let c := Sample.moreThanOne.withOperator .lessEqual
  obtain ⟨r, hr, hc⟩ : ∃ r, (Target.ofEntity Sample.measure).condition "reading" .greaterThan
      (.int 1) true = .ok r ∧ c ∈ r.emitted := ⟨_, rfl, List.mem_cons_self ..⟩
  have haccepts : (Attribute.ofType "reading" .double).accepts Sample.two = true := by
    decide +kernel
  have hinRange : Sample.two.InRange ∧ c.operand.InRange :=
    ⟨Value.inRange_double.2 (by decide +kernel), Value.inRange_double.2 (by decide +kernel)⟩
  have h := complement_condition hr hc (v := Sample.two) (by decide +kernel)
  have hattribute := h.2 (.ofType "reading" .double) (by decide +kernel) haccepts
  exact ⟨r, hr, hc, haccepts, hattribute.2 fun _ => hinRange⟩

/-- A reading of `10 ^ 29` is neither more than one nor one at most. -/
theorem complement_condition_huge :
    (Attribute.ofType "reading" .double).accepts Sample.huge = true ∧
      Sample.huge.isNull = false ∧
      (Target.ofEntity Sample.measure).attribute? "reading" =
        some (.ofType "reading" .double) ∧
      (∃ r, (Target.ofEntity Sample.measure).condition "reading" .greaterThan (.int 1) false =
        .ok r ∧ Sample.moreThanOne ∈ r.emitted) ∧
      Sample.moreThanOne.holdsFor Sample.huge = false ∧
      (Sample.moreThanOne.withOperator Operator.greaterThan.inverse).holdsFor Sample.huge =
        false := by
  refine ⟨by decide +kernel, by decide +kernel, by decide +kernel,
    ⟨_, rfl, List.mem_singleton_self _⟩, by decide +kernel, by decide +kernel⟩

end Target

end Filter

end RecordService
