import RecordService.Proofs.Coercion.Suitable
import RecordService.Proofs.Time.Calendar

namespace RecordService

/-!
# Values without a text for people

The display format shows points in time in UTC and decimals with the places of their attribute.
Neither is always possible. A point in time whose date leaves the calendar on its way to UTC, and a
decimal that the places make too long for its room, are breaches that take the whole operation down.
They are the only ones.

* `Decimal.isSome_toTextAt?_iff`: where a decimal has a text with a number of places.
* `Decimal.fitsAt_of_le`: places that no decimal is too long for.
* `Attribute.Unshowable`: the values of an attribute that cannot be shown.
* `Attribute.unshowable_ofType_iff`: without places of its own an attribute shows all decimals.
* `Attribute.render_display_eq_breach_iff`: the display format fails on these and no others.
-/

namespace Decimal

variable {count : Nat} {d : Decimal}

/-- Whether the text of a decimal with a number of places fits its room. -/
def FitsAt (count : Nat) (d : Decimal) : Prop :=
  count ≤ maxTextPlaces ∧ d.magnitude / 10 ^ d.scale < 10 ^ (textRoom - 1 - min count maxScale)

instance (count : Nat) (d : Decimal) : Decidable (d.FitsAt count) :=
  inferInstanceAs (Decidable (_ ∧ _))

/-- A decimal has a text with a number of places if it fits. -/
theorem isSome_toTextAt?_iff : (d.toTextAt? count).isSome = true ↔ d.FitsAt count := by
  have hroom : 0 < textRoom - 1 - min count maxScale := by
    simp only [textRoom, maxScale]
    omega
  have hlength : d.digits.1.length + 1 + min count maxScale ≤ textRoom ↔
      d.magnitude / 10 ^ d.scale < 10 ^ (textRoom - 1 - min count maxScale) := by
    rw [← Nat.length_toDigits_le_iff (by decide) hroom]
    simp only [digits, textRoom, maxScale]
    omega
  simp only [toTextAt?, hlength, FitsAt]
  split <;> simp [*]

/-- A decimal fits with up to two more places than its own. -/
theorem fitsAt_of_le (h : count ≤ d.scale + 2) : d.FitsAt count := by
  have hscale := d.scale_le
  refine ⟨by simp only [maxTextPlaces]; omega, ?_⟩
  -- a magnitude has 29 digits at most, and the places are not part of the integral part
  have hmagnitude : d.magnitude < 10 ^ d.scale * 10 ^ (29 - d.scale) := by
    rw [← Nat.pow_add, Nat.add_sub_of_le (by omega)]
    exact Nat.lt_trans d.magnitude_lt (by decide)
  calc d.magnitude / 10 ^ d.scale
      < 10 ^ (29 - d.scale) := Nat.div_lt_of_lt_mul hmagnitude
    _ ≤ 10 ^ (textRoom - 1 - min count maxScale) := by
      refine Nat.pow_le_pow_right (by decide) ?_
      simp only [textRoom, maxScale]
      omega

end Decimal

namespace Attribute

variable {a : Attribute} {v : Value} {x : InputValue}

/-- The values of an attribute that cannot be shown to people. -/
inductive Unshowable (a : Attribute) : Value → Prop
  /-- The date in UTC is outside the calendar, and the attribute shows more than the local date. -/
  | timestamp (hbehavior : a.behavior ≠ .dateOnly) {t : Timestamp} (h : ¬t.InCalendar) :
      Unshowable a (.timestamp (some t))
  /-- The places that the attribute shows make the text too long. -/
  | decimal {d : Decimal} {places : Nat} (hprecision : a.precision = some places)
      (h : ¬d.FitsAt places) : Unshowable a (.decimal (some d))
  | money {d : Decimal} {places : Nat} (hprecision : a.precision = some places)
      (h : ¬d.FitsAt places) : Unshowable a (.money (some d))

/-- An attribute without places of its own shows all decimals. -/
theorem unshowable_ofType_iff {name : String} {type : AttributeType} :
    (ofType name type).Unshowable v ↔ ∃ t, v = .timestamp (some t) ∧ ¬t.InCalendar := by
  have hfits : ∀ {places : Nat} (d : Decimal),
      (ofType name type).precision = some places → d.FitsAt places := by
    intro places d hprecision
    refine Decimal.fitsAt_of_le ?_
    simp only [ofType] at hprecision
    split at hprecision
    · cases hprecision
      omega
    · cases hprecision
  constructor
  · rintro (⟨-, h⟩ | ⟨hprecision, h⟩ | ⟨hprecision, h⟩)
    · exact ⟨_, rfl, h⟩
    · exact absurd (hfits _ hprecision) h
    · exact absurd (hfits _ hprecision) h
  · rintro ⟨t, rfl, h⟩
    have hbehavior : (ofType name type).behavior = .userLocal := rfl
    exact .timestamp (by rw [hbehavior]; decide) h

/-- A point in time cannot be shown if it is shown with its time of day and its offset takes it out
of the calendar. -/
theorem displayTimestamp_eq_breach_iff {t : Timestamp} :
    a.displayTimestamp t = .error .breach ↔ a.behavior ≠ .dateOnly ∧ ¬t.InCalendar := by
  rw [displayTimestamp, ← Timestamp.isSome_inUtc?_iff, Timestamp.displayText?]
  cases t.inUtc? <;> split <;> simp [*]

/-- A decimal with its own places can always be shown. -/
theorem displayDecimal_eq_breach_iff {d : Decimal} :
    a.displayDecimal d = .error .breach ↔
      ∃ places, a.precision = some places ∧ ¬d.FitsAt places := by
  have hbreach : a.displayDecimal d = .error .breach ↔ ¬d.FitsAt (a.precision.getD d.scale) := by
    rw [displayDecimal, ← Decimal.isSome_toTextAt?_iff]
    cases d.toTextAt? (a.precision.getD d.scale) <;> simp
  rw [hbreach]
  cases a.precision with
  | none => simp [Decimal.fitsAt_of_le]
  | some places => simp

/-- The text of a value for people is a breach for the values that cannot be shown. For all others
it is a text, or a failure that is reported. -/
theorem displayText_eq_breach_iff : a.displayText v = .error .breach ↔ a.Unshowable v := by
  constructor
  · intro h
    cases v with
    | timestamp t =>
      cases t with
      | none => cases h
      | some t =>
        obtain ⟨hbehavior, ht⟩ := displayTimestamp_eq_breach_iff.1 h
        exact .timestamp hbehavior ht
    | decimal d =>
      cases d with
      | none => cases h
      | some d =>
        obtain ⟨places, hprecision, hd⟩ := displayDecimal_eq_breach_iff.1 h
        exact .decimal hprecision hd
    | money d =>
      cases d with
      | none => cases h
      | some d =>
        obtain ⟨places, hprecision, hd⟩ := displayDecimal_eq_breach_iff.1 h
        exact .money hprecision hd
    | null => cases h
    | _ w => cases w <;> cases h
  · rintro (⟨hbehavior, ht⟩ | ⟨hprecision, hd⟩ | ⟨hprecision, hd⟩)
    · exact displayTimestamp_eq_breach_iff.2 ⟨hbehavior, ht⟩
    · exact displayDecimal_eq_breach_iff.2 ⟨_, hprecision, hd⟩
    · exact displayDecimal_eq_breach_iff.2 ⟨_, hprecision, hd⟩

theorem isPlain_iff : a.isPlain = true ↔ a.type.kind = .text ∨ a.type.kind = .uuid := by
  rw [isPlain]
  cases a.type <;> decide

/-- A value that cannot be shown is of a type that has a display format. -/
theorem Unshowable.isPlain_eq_false (h : a.Unshowable v) (hsuits : a.Suits v) :
    a.isPlain = false := by
  have hkind : v.kind = a.type.kind := by
    rcases hsuits with rfl | ⟨hdate, -⟩ | hkind
    · cases h
    · cases h <;> cases hdate
    · exact hkind
  rw [Bool.eq_false_iff, ne_eq, isPlain_iff, ← hkind]
  cases h <;> exact nofun

/-- The display format gets as far as the text of a value if its type has a display format and the
value is not null. -/
theorem render_display_iff : a.render .display v = .error .breach ↔
    a.isPlain = false ∧ v.isNull = false ∧ a.Unshowable v := by
  rw [render, ← displayText_eq_breach_iff]
  cases a.isPlain with
  | true => exact ⟨nofun, nofun⟩
  | false =>
    cases v.isNull with
    | true => exact ⟨nofun, nofun⟩
    | false => simpa using Answer.map_eq_error

/-- **Values that cannot be shown.** Whatever an attribute makes of what comes in, loose or typed,
its display format is a breach if the value is one that cannot be shown, and otherwise an answer or
a failure that is reported. -/
theorem render_display_eq_breach_iff (h : a.coerce x = .ok v) :
    a.render .display v = .error .breach ↔ a.Unshowable v := by
  rw [render_display_iff]
  constructor
  · exact fun ⟨_, _, hv⟩ => hv
  · intro hv
    have hplain : a.isPlain = false := hv.isPlain_eq_false (suits_of_coerce h)
    have hnull : v.isNull = false := by cases hv <;> rfl
    exact ⟨hplain, hnull, hv⟩

namespace Sample

/-- A decimal that is shown with all places that a decimal can have. -/
def share : Attribute :=
  { ofType "share" .decimal with precision := some 28 }

/-- A point in time. -/
def visited : Attribute :=
  ofType "visited" .dateTime

/-- The last second of the calendar, an hour to the west of UTC. -/
def lastSecond : Timestamp :=
  { Timestamp.last with offset := -3600 }

end Sample

/-- A number of four digits leaves no room for 28 places. -/
theorem render_display_eq_breach_iff_share :
    Sample.share.coerce (.loose (.string "1234")) =
        .ok (.decimal (some ⟨false, 1234, 0, by decide, by decide⟩)) ∧
      Sample.share.render .display (.decimal (some ⟨false, 1234, 0, by decide, by decide⟩)) =
        .error .breach := by
  have htaken : Sample.share.coerce (.loose (.string "1234")) =
      .ok (.decimal (some ⟨false, 1234, 0, by decide, by decide⟩)) := by decide +kernel
  exact ⟨htaken, (render_display_eq_breach_iff htaken).2 (.decimal rfl (by decide))⟩

/-- The last hour of the calendar in a time to the west of UTC is taken from a text, and cannot be
shown in UTC. -/
theorem render_display_lastSecond :
    Sample.visited.coerce (.loose (.string "9999-12-31T23:59:59-01:00")) =
        .ok (.timestamp (some Sample.lastSecond)) ∧
      Sample.visited.render .display (.timestamp (some Sample.lastSecond)) = .error .breach :=
  ⟨by decide +kernel, rfl⟩

end Attribute

end RecordService
