import RecordService.Proofs.Coercion.Idempotence
import RecordService.Proofs.Store.WellFormed

namespace RecordService.Attribute

/-!
# What comes in is made into values that suit

* `accepts_iff_suits`: the values that a store accepts for an attribute are those that suit it.
* `suits_of_coerce`: what an attribute makes of a value that comes in, loose or typed, suits it.
-/

variable {a : Attribute} {v w : Value} {x : InputValue}

/-- An attribute accepts the values that suit it. -/
theorem accepts_iff_suits : a.accepts v = true ↔ a.Suits v := by
  refine ⟨suits_of_accepts, ?_⟩
  rintro (rfl | ⟨hdate, htype⟩ | hkind)
  · rfl
  · cases v with
    | date d => exact beq_iff_eq.2 htype
    | _ => cases hdate
  · cases v with
    | null => rfl
    | date d => exact absurd hkind.symm a.type.kind_ne_date
    | _ => exact beq_iff_eq.2 hkind

/-- The empty value of a type suits its attributes. -/
theorem suits_emptyValue (a : Attribute) : a.Suits a.type.emptyValue :=
  .inr (.inr (Value.kind_nullValue _))

/-- What an attribute gets out of loose data suits it. -/
theorem suits_of_admits (h : a.Admits v) : a.Suits v := by
  cases h with
  | empty => exact a.suits_emptyValue
  | date hkind =>
    have htype : a.type = .dateTime := by
      revert hkind
      cases a.type <;> simp [AttributeType.kind]
    exact .inr (.inl ⟨rfl, htype⟩)
  | _ =>
    -- all other values are of the kind of the type
    exact .inr (.inr ‹a.type.kind = _›.symm)

/-- A value of the attribute's own kind becomes one of that kind. -/
theorem kind_of_coerceValue (hv : v.isNull = false) (hkind : v.kind = a.type.kind)
    (h : a.coerceValue v = .ok w) : w.kind = a.type.kind := by
  cases v with
  | choice c =>
    cases c with
    | none => exact nomatch hv
    | some c =>
      rw [coerceValue_choice hkind.symm] at h
      obtain ⟨d, rfl, -⟩ := choiceOfCode_eq_ok h
      exact hkind
  | reference r =>
    cases r with
    | none => exact nomatch hv
    | some r =>
      rw [coerceValue_reference hkind.symm] at h
      rw [checkTarget_eq_ok h]
      exact hkind
  | _ =>
    rw [coerceValue_self hv hkind nofun nofun] at h
    cases h
    exact hkind

/-- **Values that suit.** What an attribute makes of a value that comes in, loose or typed, suits
it. -/
theorem suits_of_coerce (h : a.coerce x = .ok v) : a.Suits v := by
  cases x with
  | loose j => exact suits_of_admits (admits_of_coerceJson h)
  | typed u =>
    change a.coerceValue u = .ok v at h
    by_cases hnull : u.isNull = true
    · rw [coerceValue_of_isNull hnull] at h
      cases h
      exact a.suits_emptyValue
    · rw [Bool.not_eq_true] at hnull
      by_cases hkind : u.kind = a.type.kind
      · exact .inr (.inr (kind_of_coerceValue hnull hkind h))
      · rw [coerceValue_of_kind_ne hnull hkind] at h
        exact suits_of_admits (admits_of_coerceJson h)

end RecordService.Attribute
