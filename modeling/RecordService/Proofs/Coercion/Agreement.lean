import RecordService.Proofs.Coercion.RoundTrip
import RecordService.Proofs.Value.Order

namespace RecordService

/-!
# Typed values and their loose form

An attribute makes the same of a typed value and of its loose form, doubles aside, with two
exceptions. A value of the attribute's own kind is taken as it is, while its loose form is fitted to
what the attribute declares: a decimal is rounded to its places, and of a point in time only the
date is kept where the attribute is one of dates.

* `Attribute.coerceValue_eq_coerceJson`: where both ways agree, failures included.
* `Attribute.fit`, `Attribute.Fits`: what is made of a value in loose form, and the values that it
  leaves as they are.
* `Attribute.coerce_toJson_iff`: when both ways lead to the same value.
-/

/-! ### Equality of values -/

/-- Decimals are the same number if they have the same units of the smallest place. -/
theorem Decimal.sameValue_iff_units {a b : Decimal} : a.sameValue b = true ↔ a.units = b.units := by
  rw [sameValue, beq_iff_eq, compare_eq_units, compare_eq_iff_eq]

namespace Value

variable {u v w : Value}

/-- Being the same value goes both ways. -/
theorem Same.symm (h : v.Same w) : w.Same v := by
  unfold Same at h
  split at h
  · exact Decimal.sameValue_comm.1 h
  · exact Decimal.sameValue_comm.1 h
  · exact h ▸ same_refl v

/-- Values that are the same as a third one are the same. -/
theorem Same.trans (huv : u.Same v) (hvw : v.Same w) : u.Same w := by
  have hdecimals {d e f : Decimal} (hde : d.sameValue e = true) (hef : e.sameValue f = true) :
      d.sameValue f = true := by
    rw [Decimal.sameValue_iff_units] at *
    exact hde.trans hef
  unfold Same at huv
  split at huv
  case h_1 d e =>
    cases w with
    | decimal f =>
      cases f with
      | none => exact nomatch hvw
      | some f => exact hdecimals huv hvw
    | _ => exact nomatch hvw
  case h_2 d e =>
    cases w with
    | money f =>
      cases f with
      | none => exact nomatch hvw
      | some f => exact hdecimals huv hvw
    | _ => exact nomatch hvw
  case h_3 => exact huv ▸ hvw

end Value

namespace Attribute

variable {a : Attribute} {v w w' : Value}

/-! ### What a loose form becomes -/

/-- A value fitted to what an attribute declares: a decimal with the places that it keeps, and a
date in place of a point in time where it is an attribute of dates. -/
def fit (a : Attribute) : Value → Value
  | .decimal (some d) => .decimal (some (a.keepPlaces d))
  | .money (some d) => .money (some (a.keepPlaces d))
  | .timestamp (some t) =>
    if a.behavior = .dateOnly then .date (some t.date) else .timestamp (some t)
  | v => v

/-- A value keeps to what an attribute declares: its number needs no more places than the attribute
keeps, and it is no point in time where the attribute is one of dates. -/
def Fits (a : Attribute) : Value → Prop
  | .decimal (some d) => (a.keepPlaces d).sameValue d = true
  | .money (some d) => (a.keepPlaces d).sameValue d = true
  | .timestamp (some _) => a.behavior ≠ .dateOnly
  | _ => True

/-- The values that fit are those that fitting leaves as they are. -/
theorem same_fit_iff : (a.fit v).Same v ↔ a.Fits v := by
  unfold Fits
  split
  case h_1 d => exact Iff.rfl
  case h_2 d => exact Iff.rfl
  case h_3 t =>
    rw [fit]
    split
    case isTrue hbehavior => exact iff_of_false nofun (absurd hbehavior)
    case isFalse hbehavior => exact iff_of_true rfl hbehavior
  case h_4 hdecimal hmoney htimestamp =>
    rw [fit]
    · exact iff_of_true (Value.same_refl v) trivial
    · exact hdecimal
    · exact hmoney
    · exact htimestamp

/-- What an attribute makes of loose data fits it. -/
theorem fits_of_admits (h : a.Admits v) : a.Fits v := by
  have hplaces {d : Decimal} (hplaces : a.KeepsPlaces d) : (a.keepPlaces d).sameValue d = true :=
    sameValue_keepPlaces (Decimal.sameValue_refl d) hplaces
  cases h with
  | empty => cases htype : a.type <;> exact trivial
  | decimal hkind hkeeps => exact hplaces hkeeps
  | money hkind hkeeps => exact hplaces hkeeps
  | timestamp hkind hbehavior => exact hbehavior
  | _ => exact trivial

/-! ### Both ways -/

/-- A value that is no null and of another kind than the attribute takes the way of its loose
form. -/
theorem coerceValue_of_kind_ne (hv : v.isNull = false) (hkind : v.kind ≠ a.type.kind) :
    a.coerceValue v = a.coerceJson v.toJson := by
  unfold coerceValue
  rw [hv, if_neg Bool.false_ne_true, if_neg hkind]
  -- identifiers and dates have short cuts of their own, all other values are read as loose data
  split
  · rename_i id htype
    exact (coerceJson_eq_coerceByKind htype (by exact trivial)).symm
  · rename_i d htype
    have hloose : a.coerceJson (Value.date (some d)).toJson = a.coerceDateTime (.string d.toText) :=
      coerceJson_eq_coerceByKind htype (by exact trivial)
    have hdate : Date.read d.toText = .ok d := by
      rw [Date.read, d.ofText?_toText]
    have hmidnight : Timestamp.read d.toText = .ok (.midnight d) := by
      rw [Timestamp.read, Timestamp.ofText?_date]
    rw [hloose, coerceDateTime]
    split
    · rw [hdate]
      rfl
    · rw [hmidnight]
      rfl
  · rfl

/-- What comes back as it was rendered is made by both ways. -/
theorem coerceJson_of_admits (h : a.Admits v) (hv : v.Renderable)
    (hkind : v.kind ≠ .decimal ∧ v.kind ≠ .money) : a.coerceJson v.toJson = .ok v := by
  obtain ⟨v', hread, hsame⟩ := coerceJson_toJson h hv
  rw [hread]
  unfold Value.Same at hsame
  split at hsame
  · exact absurd rfl hkind.1
  · exact absurd rfl hkind.2
  · rw [hsame]

/-- The kinds of which a typed value is taken as it is, and its loose form is not. -/
def fittedKinds : List ValueKind := [.double, .decimal, .money, .timestamp]

/-- A value of the attribute's kind is taken as it is, but for the kinds that are fitted, and its
code or its target is checked on both ways. -/
theorem coerceValue_of_kind_eq (hv : v.isNull = false) (hkind : v.kind = a.type.kind)
    (hother : v.kind ∉ fittedKinds) : a.coerceValue v = a.coerceJson v.toJson := by
  unfold coerceValue
  rw [hv, if_neg Bool.false_ne_true, if_pos hkind]
  have hsame (hadmits : a.Admits v) (hrenderable : v.Renderable)
      (hkind : v.kind ≠ .decimal ∧ v.kind ≠ .money) : .ok v = a.coerceJson v.toJson :=
    (coerceJson_of_admits hadmits hrenderable hkind).symm
  cases v
  case null => exact absurd hv (by decide)
  case double => exact absurd (by simp [fittedKinds, Value.kind]) hother
  case decimal => exact absurd (by simp [fittedKinds, Value.kind]) hother
  case money => exact absurd (by simp [fittedKinds, Value.kind]) hother
  case timestamp => exact absurd (by simp [fittedKinds, Value.kind]) hother
  case date => exact absurd hkind.symm a.type.kind_ne_date
  all_goals
    rename_i x
    cases x with
    | none => exact absurd hv (by decide)
    | some x => ?_
  case boolean => exact hsame (.boolean hkind.symm x) trivial (by simp [Value.kind])
  case int32 => exact hsame (.int32 hkind.symm x) trivial (by simp [Value.kind])
  case int64 => exact hsame (.int64 hkind.symm x) trivial (by simp [Value.kind])
  case text => exact hsame (.text hkind.symm x) trivial (by simp [Value.kind])
  case uuid => exact hsame (.uuid hkind.symm x) trivial (by simp [Value.kind])
  case choice => exact (coerceJson_choice hkind.symm x).symm
  case reference => exact (coerceJson_reference hkind.symm x).symm

/-- **Both ways agree**, also in their failures, unless the value is of the attribute's kind and is
fitted in its loose form. -/
theorem coerceValue_eq_coerceJson
    (h : v.isNull = false → v.kind = a.type.kind → v.kind ∉ fittedKinds) :
    a.coerceValue v = a.coerceJson v.toJson := by
  cases hv : v.isNull with
  | true =>
    obtain ⟨kind, rfl⟩ := Value.exists_of_isNull hv
    have hloose : kind.nullValue.toJson = .null := by cases kind <;> rfl
    unfold coerceValue
    rw [hv, if_pos rfl, hloose, coerceJson]
  | false =>
    by_cases hkind : v.kind = a.type.kind
    · exact coerceValue_of_kind_eq hv hkind (h hv hkind)
    · exact coerceValue_of_kind_ne hv hkind

/-- The values of the kinds that are fitted, doubles and nulls aside. -/
theorem fitted_cases (hv : v.isNull = false) (hdouble : v.kind ≠ .double)
    (hfitted : v.kind ∈ fittedKinds) :
    (∃ d, v = .decimal (some d)) ∨ (∃ d, v = .money (some d)) ∨
      ∃ t, v = .timestamp (some t) := by
  cases v <;> simp [fittedKinds, Value.kind] at hfitted
  case double => exact absurd rfl hdouble
  all_goals
    rename_i x
    cases x with
    | none => exact absurd hv (by decide)
    | some x => simp

/-- A value of the attribute's kind is taken as it is, unless it has a code or a target to be
checked. -/
theorem coerceValue_self (hv : v.isNull = false) (hkind : v.kind = a.type.kind)
    (hchoice : v.kind ≠ .choice) (hreference : v.kind ≠ .reference) : a.coerceValue v = .ok v := by
  unfold coerceValue
  rw [hv, if_neg Bool.false_ne_true, if_pos hkind]
  split
  · exact absurd rfl hreference
  · exact absurd rfl hchoice
  · rfl

/-- A value of the attribute's kind that is fitted in its loose form is taken as it is. -/
theorem coerceValue_of_fitted (hv : v.isNull = false) (hkind : v.kind = a.type.kind)
    (hfitted : v.kind ∈ fittedKinds) : a.coerceValue v = .ok v := by
  refine coerceValue_self hv hkind ?_ ?_
  · intro hchoice
    rw [hchoice] at hfitted
    exact absurd hfitted (by decide)
  · intro hreference
    rw [hreference] at hfitted
    exact absurd hfitted (by decide)

/-- Rounding makes no difference between decimals that are the same number. -/
theorem sameValue_keepPlaces_keepPlaces {d e : Decimal} (h : d.sameValue e = true) :
    (a.keepPlaces d).sameValue (a.keepPlaces e) = true := by
  unfold keepPlaces
  split
  · exact Decimal.sameValue_roundTo_roundTo h _
  · exact h

/-- The loose form of a decimal becomes the decimal with the places that the attribute keeps. -/
theorem coerceDecimal_fit {d d' : Decimal} (h : a.coerceDecimal d.toJson = .ok d') :
    d'.sameValue (a.keepPlaces d) = true := by
  obtain ⟨e, hread, hvalue⟩ := a.coerceDecimal_toJson_eq d
  rw [hread] at h
  cases h
  exact sameValue_keepPlaces_keepPlaces hvalue

/-- The loose form of a point in time becomes that point in time or its date. -/
theorem coerceDateTime_fit {t : Timestamp} (h : a.coerceDateTime (.string t.toText) = .ok v) :
    v = a.fit (.timestamp (some t)) := by
  rw [coerceDateTime] at h
  rw [fit]
  split at h
  · rename_i hbehavior
    obtain ⟨d, hd, rfl⟩ := Answer.map_eq_ok.1 h
    have hread := Date.read_eq_ok.1 (Answer.mapError_eq_ok.1 hd)
    rw [if_pos hbehavior, Date.eq_of_ofText?_toText hread]
  · rename_i hbehavior
    obtain ⟨t', ht', rfl⟩ := Answer.map_eq_ok.1 h
    have hread := Timestamp.read_eq_ok.1 (Answer.mapError_eq_ok.1 ht')
    rw [if_neg hbehavior, Timestamp.eq_of_ofText?_toText hread]

/-- The loose form of a value becomes what the attribute makes of the value itself, fitted to what
it declares. -/
theorem same_fit (hdouble : v.kind ≠ .double) (hw : a.coerceValue v = .ok w)
    (hw' : a.coerceJson v.toJson = .ok w') : w'.Same (a.fit w) := by
  -- either the value is taken as it is and its loose form is fitted, or both ways agree
  by_cases h : v.isNull = false ∧ v.kind = a.type.kind ∧ v.kind ∈ fittedKinds
  · obtain ⟨hv, hkind, hfitted⟩ := h
    rw [coerceValue_of_fitted hv hkind hfitted] at hw
    cases hw
    rcases fitted_cases hv hdouble hfitted with ⟨d, rfl⟩ | ⟨d, rfl⟩ | ⟨t, rfl⟩
    · rw [Value.toJson, coerceJson_eq_coerceByKind hkind.symm (isSingle_toJson d)] at hw'
      obtain ⟨d', hd', rfl⟩ := Answer.map_eq_ok.1 hw'
      exact coerceDecimal_fit hd'
    · rw [Value.toJson, coerceJson_eq_coerceByKind hkind.symm (isSingle_toJson d)] at hw'
      obtain ⟨d', hd', rfl⟩ := Answer.map_eq_ok.1 hw'
      exact coerceDecimal_fit hd'
    · rw [Value.toJson, coerceJson_eq_coerceByKind hkind.symm (by exact trivial)] at hw'
      rw [coerceDateTime_fit hw']
      exact Value.same_refl _
  · have hways := coerceValue_eq_coerceJson (a := a) (v := v) fun hv hkind hfitted =>
      h ⟨hv, hkind, hfitted⟩
    rw [hways, hw'] at hw
    cases hw
    exact (same_fit_iff.2 (fits_of_admits (admits_of_coerceJson hw'))).symm

/-- **Typed and loose.** Where an attribute takes a typed value and its loose form, the loose form
becomes what the value itself becomes, fitted to what the attribute declares. So both are the same
value if and only if the typed one fits, and they are equal if the value is of another kind than the
attribute or of a kind that is not fitted. -/
theorem coerce_toJson_iff (hdouble : v.kind ≠ .double) (hw : a.coerce (.typed v) = .ok w)
    (hw' : a.coerce (.loose v.toJson) = .ok w') :
    w'.Same (a.fit w) ∧ (w'.Same w ↔ a.Fits w) ∧
      ((v.kind = a.type.kind → v.kind ∉ fittedKinds) → w' = w) := by
  have hfit : w'.Same (a.fit w) := same_fit hdouble hw hw'
  refine ⟨hfit, ⟨fun hsame => ?_, fun hfits => ?_⟩, fun hother => ?_⟩
  · exact same_fit_iff.1 (hfit.symm.trans hsame)
  · exact hfit.trans (same_fit_iff.2 hfits)
  · have hways : a.coerce (.typed v) = a.coerce (.loose v.toJson) :=
      coerceValue_eq_coerceJson fun _ => hother
    rw [hways, hw'] at hw
    exact Except.ok.inj hw

namespace Sample

/-- An amount of two places, the last of them a zero. -/
def amount : Value :=
  .money (Decimal.ofParts? false 1230 2)

/-- The same amount without the zero. -/
def shortAmount : Value :=
  .money (Decimal.ofParts? false 123 1)

/-- An amount of three places. -/
def fineAmount : Value :=
  .money (Decimal.ofParts? false 12345 3)

/-- That amount without the third place. -/
def roundAmount : Value :=
  .money (Decimal.ofParts? false 1234 2)

/-- An attribute of dates. -/
def birthDate : Attribute :=
  { ofType "birthdate" .dateTime with behavior := .dateOnly }

/-- Half past midnight, two hours ahead of UTC, where it is still the day before. -/
def birth : Value :=
  .timestamp (Timestamp.ofText? "2024-05-01T00:30:00+02:00")

/-- The day of it. -/
def birthDay : Value :=
  .date (Date.ofText? "2024-05-01")

end Sample

/-- An amount of two places comes without the zero at its end out of its loose form, and is the
same. -/
theorem coerce_toJson_iff_amount :
    (ofType "total" .money).coerce (.typed Sample.amount) = .ok Sample.amount ∧
      (ofType "total" .money).coerce (.loose Sample.amount.toJson) = .ok Sample.shortAmount ∧
      Sample.shortAmount.Same Sample.amount := by
  have htyped : (ofType "total" .money).coerce (.typed Sample.amount) = .ok Sample.amount := rfl
  have hloose : (ofType "total" .money).coerce (.loose Sample.amount.toJson) =
      .ok Sample.shortAmount := by decide +kernel
  have hfits : (ofType "total" .money).Fits Sample.amount :=
    show Decimal.sameValue _ _ = true by decide +kernel
  obtain ⟨-, hsame, -⟩ := coerce_toJson_iff (by decide) htyped hloose
  exact ⟨htyped, hloose, hsame.2 hfits⟩

/-- A typed amount keeps its third place, and an attribute of dates keeps a typed point in time.
From the loose forms come an amount of two places, and a date. -/
theorem coerce_toJson_fineAmount :
    ((ofType "total" .money).coerce (.typed Sample.fineAmount) = .ok Sample.fineAmount ∧
      (ofType "total" .money).coerce (.loose Sample.fineAmount.toJson) = .ok Sample.roundAmount ∧
      ¬Sample.roundAmount.Same Sample.fineAmount) ∧
    (Sample.birthDate.coerce (.typed Sample.birth) = .ok Sample.birth ∧
      Sample.birthDate.coerce (.loose Sample.birth.toJson) = .ok Sample.birthDay ∧
      ¬Sample.birthDay.Same Sample.birth) := by
  refine ⟨⟨rfl, by decide +kernel, ?_⟩, by decide +kernel, by decide +kernel, nofun⟩
  show ¬Decimal.sameValue _ _ = true
  decide +kernel

end Attribute

end RecordService
