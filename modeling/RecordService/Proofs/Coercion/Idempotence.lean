import RecordService.Proofs.Coercion.Agreement

namespace RecordService.Attribute

/-!
# Coerced values are settled

What an attribute has made of a value it makes of it again. A choice that came with a wrong label
has the declared one by then, a target that was checked passes once more, and a date that became a
point in time stays one.

* `coerceValue_of_admits`: what loose data become is taken as it is.
* `coerceValue_again`: so is what a typed value becomes.
* `coerce_again`: coercion is idempotent.
-/

variable {a : Attribute} {v w : Value} {x : InputValue}

/-! ### Values that are checked -/

/-- The code of a choice is looked up, and the label that it came with is dropped. -/
theorem coerceValue_choice (hkind : a.type.kind = .choice) (c : Choice) :
    a.coerceValue (.choice (some c)) = a.choiceOfCode c.code.toInt64 := by
  have hv : ¬(Value.choice (some c)).isNull = true := nofun
  unfold coerceValue
  rw [if_neg hv, if_pos (show (Value.choice (some c)).kind = a.type.kind from hkind.symm)]

/-- The target of a reference is checked. -/
theorem coerceValue_reference (hkind : a.type.kind = .reference) (r : Reference) :
    a.coerceValue (.reference (some r)) = a.checkTarget r := by
  have hv : ¬(Value.reference (some r)).isNull = true := nofun
  unfold coerceValue
  rw [if_neg hv, if_pos (show (Value.reference (some r)).kind = a.type.kind from hkind.symm)]

/-- The null of any kind becomes the null of the attribute's type. -/
theorem coerceValue_of_isNull (hv : v.isNull = true) : a.coerceValue v = .ok a.type.emptyValue := by
  unfold coerceValue
  rw [if_pos hv]

/-! ### Values that were made -/

/-- A value that the attribute admits is taken as it is. -/
theorem coerceValue_of_admits (h : a.Admits v) : a.coerceValue v = .ok v := by
  cases h with
  | empty =>
    have hnull : a.type.emptyValue.isNull = true := by cases a.type <;> rfl
    exact coerceValue_of_isNull hnull
  | choice hkind hcode => exact (coerceValue_choice hkind _).trans hcode
  | reference hkind htarget => exact (coerceValue_reference hkind _).trans htarget
  | date hkind hbehavior d =>
    -- a date is of another kind than its attribute, and takes the way of its loose form
    have hother : (Value.date (some d)).kind ≠ a.type.kind := a.type.kind_ne_date.symm
    have hloose : (Value.date (some d)).kind ≠ .decimal ∧ (Value.date (some d)).kind ≠ .money :=
      ⟨nofun, nofun⟩
    rw [coerceValue_of_kind_ne rfl hother]
    exact coerceJson_of_admits (.date hkind hbehavior d) trivial hloose
  | text hkind => exact coerceValue_self rfl hkind.symm nofun nofun
  | int32 hkind => exact coerceValue_self rfl hkind.symm nofun nofun
  | int64 hkind => exact coerceValue_self rfl hkind.symm nofun nofun
  | double hkind => exact coerceValue_self rfl hkind.symm nofun nofun
  | decimal hkind => exact coerceValue_self rfl hkind.symm nofun nofun
  | money hkind => exact coerceValue_self rfl hkind.symm nofun nofun
  | boolean hkind => exact coerceValue_self rfl hkind.symm nofun nofun
  | timestamp hkind => exact coerceValue_self rfl hkind.symm nofun nofun
  | uuid hkind => exact coerceValue_self rfl hkind.symm nofun nofun

/-- What a typed value became is taken as it is. -/
theorem coerceValue_again (h : a.coerceValue v = .ok w) : a.coerceValue w = .ok w := by
  cases hv : v.isNull with
  | true =>
    rw [coerceValue_of_isNull hv] at h
    cases h
    exact coerceValue_of_admits .empty
  | false =>
    by_cases hkind : v.kind = a.type.kind
    case neg =>
      rw [coerceValue_of_kind_ne hv hkind] at h
      exact coerceValue_of_admits (admits_of_coerceJson h)
    case pos =>
      cases v with
      | choice c =>
        cases c with
        | none => exact nomatch hv
        | some c =>
          rw [coerceValue_choice hkind.symm] at h
          exact coerceValue_of_admits (admits_of_choiceOfCode hkind.symm h)
      | reference r =>
        cases r with
        | none => exact nomatch hv
        | some r =>
          rw [coerceValue_reference hkind.symm] at h
          obtain rfl := checkTarget_eq_ok h
          exact coerceValue_of_admits (.reference hkind.symm h)
      | _ =>
        -- all other values of the attribute's kind were taken as they are the first time
        have hself := coerceValue_self hv hkind nofun nofun
        rw [hself] at h
        cases h
        exact hself

/-- **Idempotence.** What an attribute made of a value that came in, loose or typed, it makes of it
again. -/
theorem coerce_again (h : a.coerce x = .ok v) : a.coerce (.typed v) = .ok v := by
  cases x with
  | loose j => exact coerceValue_of_admits (admits_of_coerceJson h)
  | typed u => exact coerceValue_again h

namespace Sample

/-- A status with two codes. -/
def orderStatus : Attribute :=
  { ofType "statuscode" .status with options := [⟨1, some "Open"⟩, ⟨2, some "Shipped"⟩] }

end Sample

/-- A code that comes as a decimal, or with a label of its own, becomes the choice with the declared
label, and this is what is made of it again. -/
theorem coerce_again_labeled :
    Sample.orderStatus.coerce (.typed (.decimal (Decimal.ofParts? false 20 1))) =
        .ok (.choice (some ⟨2, some "Shipped"⟩)) ∧
      Sample.orderStatus.coerce (.typed (.choice (some ⟨2, some "Sent"⟩))) =
        .ok (.choice (some ⟨2, some "Shipped"⟩)) ∧
      Sample.orderStatus.coerce (.typed (.choice (some ⟨2, some "Shipped"⟩))) =
        .ok (.choice (some ⟨2, some "Shipped"⟩)) := by
  have hnumber : Sample.orderStatus.coerce (.typed (.decimal (Decimal.ofParts? false 20 1))) =
      .ok (.choice (some ⟨2, some "Shipped"⟩)) := by decide +kernel
  exact ⟨hnumber, by decide +kernel, coerce_again hnumber⟩

end RecordService.Attribute
