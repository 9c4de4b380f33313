import RecordService.Proofs.Evaluation.Sorting
import RecordService.Proofs.Value.Symmetry

namespace RecordService

/-!
# Where sort keys are transitive

A sort key puts nulls first and takes values that do not compare for equal. Among values of one kind
this is transitive as long as the value in the middle compares: a double out of the range of
decimals is level with all others, whatever their order. A date is level with all points in time of
its day, so that dates and points in time in one attribute are not in any order.

* `Value.compare?_eq_compareScale`: values of one kind compare as a total preorder has it.
* `SortKey.Ascends`: a value does not come behind another one.
* `SortKey.ascends_trans`: transitivity for values of one kind.
* `SortKey.AtOdds`: dates and points in time that go round in a circle.
* `SortKey.ascends_trans_iff`: the values that break transitivity, and the types of attributes that
  have any.
-/

namespace Value

/-! ### A scale for values of one kind -/

/-- The decimal by which a double compares. -/
def doubleRank : Value → Option Decimal
  | double x => x.bind Decimal.ofBinary64?
  | _ => none

/-- The order of values of one kind, by their ranks and for doubles by their decimals. -/
def compareScale : Value → Value → Ordering :=
  compareLex compareRank (compareOn doubleRank)

instance : Std.TransCmp compareScale :=
  inferInstanceAs (Std.TransCmp (compareLex _ _))

/-- Two values of the same kind, neither of them a null or out of range, compare by the scale. -/
theorem compare?_eq_compareScale {v w : Value} (hv : v.isNull = false) (hw : w.isNull = false)
    (hkind : v.kind = w.kind) (hvrange : v.InRange) (hwrange : w.InRange) :
    v.compare? w = some (v.compareScale w) := by
  by_cases hdouble : v.kind = .double
  · obtain ⟨x, rfl⟩ := exists_of_kind_eq_double hv hdouble
    obtain ⟨y, rfl⟩ := exists_of_kind_eq_double hw (hkind.symm.trans hdouble)
    obtain ⟨d, hd⟩ := Option.isSome_iff_exists.1 (inRange_double.1 hvrange)
    obtain ⟨e, he⟩ := Option.isSome_iff_exists.1 (inRange_double.1 hwrange)
    have hscale : compareScale (double (some x)) (double (some y)) =
        Ord.compare (Decimal.ofBinary64? x) (Decimal.ofBinary64? y) := rfl
    show compareViews? (double (some x)) (double (some y)) = _
    rw [hscale, compareViews?]
    simp only [identifier?, number?, hd, he]
    rfl
  · have hnone {v : Value} (h : v.kind ≠ .double) : v.doubleRank = none := by
      cases v
      case double => exact absurd rfl h
      all_goals rfl
    have hscale : v.compareScale w =
        (v.compareRank w).then (Ord.compare v.doubleRank w.doubleRank) := rfl
    rw [hscale, hnone hdouble, hnone (hkind ▸ hdouble), compare?_eq_compareRank hv hw hkind hdouble]
    exact congrArg some Ordering.then_eq.symm

/-- All of some values that are no nulls are of one kind. -/
def OneKind (vs : List Value) : Prop :=
  ∀ v ∈ vs, ∀ w ∈ vs, v.isNull = false → w.isNull = false → v.kind = w.kind

/-- Only doubles are out of range, and nulls are not. -/
theorem kind_of_not_inRange {v : Value} (h : ¬v.InRange) : v.kind = .double ∧ v.isNull = false := by
  refine ⟨by_contra fun hkind => h (inRange_of_kind_ne hkind), ?_⟩
  rw [← Bool.not_eq_true]
  intro hnull
  obtain ⟨kind, rfl⟩ := exists_of_isNull hnull
  apply h
  rintro x hx
  cases kind <;> cases hx

/-- Of two values that compare neither is a null. -/
theorem isNull_of_compare?_eq_some {v w : Value} {o : Ordering} (h : v.compare? w = some o) :
    v.isNull = false ∧ w.isNull = false := by
  constructor
  all_goals
    rw [← Bool.not_eq_true]
    intro hnull
    rw [compare?_of_isNull (by simp [hnull])] at h
    exact nomatch h

/-- Two values of one kind that compare are in range. -/
theorem inRange_of_compare?_eq_some {v w : Value} {o : Ordering} (hkind : v.kind = w.kind)
    (h : v.compare? w = some o) : v.InRange ∧ w.InRange := by
  obtain ⟨hv, hw⟩ := isNull_of_compare?_eq_some h
  by_cases hdouble : v.kind = .double
  · rw [← isSome_compare?_double hv hw hdouble (hkind ▸ hdouble), h]
    rfl
  · exact ⟨inRange_of_kind_ne hdouble, inRange_of_kind_ne (hkind ▸ hdouble)⟩

end Value

namespace SortKey

open Value

/-! ### Transitivity -/

/-- A value does not come behind another one where a key ascends. -/
def Ascends (v w : Value) : Prop :=
  compareValues v w ≠ .gt

instance (v w : Value) : Decidable (Ascends v w) :=
  inferInstanceAs (Decidable (_ ≠ _))

variable {a : Attribute} {u v w : Value}

theorem not_ascends_iff :
    ¬Ascends v w ↔ v.isNull = false ∧ w.isNull = true ∨ v.compare? w = some .gt := by
  rw [Ascends, not_not, compareValues_eq_gt_iff]

/-- What does not come behind a null is a null. -/
theorem isNull_of_ascends (h : Ascends v w) (hv : v.isNull = false) : w.isNull = false := by
  rw [← Bool.not_eq_true]
  exact fun hw => not_ascends_iff.2 (.inl ⟨hv, hw⟩) h

/-- Where two steps ascend and both together do not, the first value is greater than the last. -/
theorem compare?_of_not_ascends (huv : Ascends u v) (hvw : Ascends v w) (h : ¬Ascends u w) :
    u.compare? w = some .gt := by
  refine (not_ascends_iff.1 h).resolve_left fun ⟨hu, hw⟩ => ?_
  have hnull := isNull_of_ascends hvw (isNull_of_ascends huv hu)
  rw [hw] at hnull
  exact nomatch hnull

/-- Values of one kind that are no nulls ascend as the scale has it, if they are in range. -/
theorem isLE_compareScale (hv : v.isNull = false) (hw : w.isNull = false) (hkind : v.kind = w.kind)
    (hvrange : v.InRange) (hwrange : w.InRange) (h : Ascends v w) :
    (v.compareScale w).isLE = true := by
  have hcompare := compare?_eq_compareScale hv hw hkind hvrange hwrange
  cases hscale : v.compareScale w with
  | lt => rfl
  | eq => rfl
  | gt =>
    rw [hscale] at hcompare
    exact absurd h (not_ascends_iff.2 (.inr hcompare))

/-- **Transitivity.** Values of one kind that ascend from the first to the second and on to the
third ascend from the first to the third, if the second is in range. -/
theorem ascends_trans (hkinds : OneKind [u, v, w]) (hrange : v.InRange) (huv : Ascends u v)
    (hvw : Ascends v w) : Ascends u w := by
  by_contra hnot
  have hgt := compare?_of_not_ascends huv hvw hnot
  obtain ⟨hu, hw⟩ := isNull_of_compare?_eq_some hgt
  have hv := isNull_of_ascends huv hu
  have hkindUV := hkinds u (by simp) v (by simp) hu hv
  have hkindVW := hkinds v (by simp) w (by simp) hv hw
  have hkindUW := hkindUV.trans hkindVW
  -- the ends compare, and the middle is in range, so that all three are on the scale
  obtain ⟨hurange, hwrange⟩ := inRange_of_compare?_eq_some hkindUW hgt
  have hle : (u.compareScale w).isLE = true :=
    Std.TransCmp.isLE_trans (isLE_compareScale hu hv hkindUV hurange hrange huv)
      (isLE_compareScale hv hw hkindVW hrange hwrange hvw)
  rw [compare?_eq_compareScale hu hw hkindUW hurange hwrange] at hgt
  rw [Option.some.inj hgt] at hle
  exact nomatch hle

/-- A double out of range is level with all values of its kind. -/
theorem ascends_of_not_inRange (hkind : u.kind = v.kind) (hv : v.isNull = false)
    (hrange : ¬u.InRange ∨ ¬v.InRange) : Ascends u v := by
  by_contra hgt
  rcases not_ascends_iff.1 hgt with ⟨-, hnull⟩ | hgt
  · rw [hv] at hnull
    exact nomatch hnull
  · obtain ⟨hurange, hvrange⟩ := inRange_of_compare?_eq_some hkind hgt
    exact hrange.elim (absurd hurange) (absurd hvrange)

/-! ### Dates and points in time -/

/-- Dates and points in time that go round in a circle, because the days of two points in time do
not settle which of them is earlier. -/
inductive AtOdds : Value → Value → Value → Prop
  /-- A day between two points in time of which the first is the later one. -/
  | between {s t : Timestamp} {d : Date} (hst : s.compare t = .gt) (hs : s.date.compare d ≠ .gt)
      (ht : d.compare t.date ≠ .gt) :
      AtOdds (.timestamp (some s)) (.date (some d)) (.timestamp (some t))
  /-- A day before two points in time of which the later one has an earlier day. -/
  | before {s t : Timestamp} {d : Date} (hs : d.compare s.date ≠ .gt) (hst : s.compare t ≠ .gt)
      (ht : d.compare t.date = .gt) :
      AtOdds (.date (some d)) (.timestamp (some s)) (.timestamp (some t))
  /-- A day behind two points in time of which the earlier one has a later day. -/
  | behind {s t : Timestamp} {d : Date} (hst : s.compare t ≠ .gt) (ht : t.date.compare d ≠ .gt)
      (hs : s.date.compare d = .gt) :
      AtOdds (.timestamp (some s)) (.timestamp (some t)) (.date (some d))

/-- Values at odds ascend in two steps and descend altogether. -/
theorem AtOdds.breaks (h : AtOdds u v w) : Ascends u v ∧ Ascends v w ∧ u.compare? w = some .gt := by
  cases h with
  | between hst hs ht => exact ⟨hs, ht, congrArg some hst⟩
  | before hs hst ht => exact ⟨hs, hst, congrArg some ht⟩
  | behind hst ht hs => exact ⟨hst, ht, congrArg some hs⟩

/-- Days that ascend in two steps ascend altogether. -/
theorem compare_ne_gt_trans {c d e : Date} (hcd : c.compare d ≠ .gt) (hde : d.compare e ≠ .gt) :
    c.compare e ≠ .gt := by
  have hle {d e : Date} : d.compare e ≠ .gt ↔ (Ord.compare d e).isLE = true := by
    show Ord.compare d e ≠ .gt ↔ _
    cases Ord.compare d e <;> simp
  rw [hle] at *
  exact Std.TransOrd.isLE_trans hcd hde

/-- A value of dates and times that is no null. -/
inductive IsMoment : Value → Prop
  | date (d : Date) : IsMoment (.date (some d))
  | timestamp (t : Timestamp) : IsMoment (.timestamp (some t))

/-- Days and points in time, not all of one kind, break transitivity only if they are at odds. -/
theorem atOdds_of_breaks (hu : IsMoment u) (hv : IsMoment v) (hw : IsMoment w)
    (hkinds : ¬OneKind [u, v, w]) (huv : Ascends u v) (hvw : Ascends v w)
    (huw : u.compare? w = some .gt) : AtOdds u v w := by
  cases hu with
  | date c =>
    cases hv with
    | date d =>
      -- of the first two days none is after the last value
      cases hw with
      | date e => exact absurd (Option.some.inj huw) (compare_ne_gt_trans huv hvw)
      | timestamp t => exact absurd (Option.some.inj huw) (compare_ne_gt_trans huv hvw)
    | timestamp s =>
      cases hw with
      | date e => exact absurd (Option.some.inj huw) (compare_ne_gt_trans huv hvw)
      | timestamp t => exact .before huv hvw (Option.some.inj huw)
  | timestamp r =>
    cases hv with
    | date d =>
      cases hw with
      | date e => exact absurd (Option.some.inj huw) (compare_ne_gt_trans huv hvw)
      | timestamp t => exact .between (Option.some.inj huw) huv hvw
    | timestamp s =>
      cases hw with
      | date e => exact .behind huv hvw (Option.some.inj huw)
      | timestamp t =>
        refine absurd ?_ hkinds
        simp [OneKind, Value.kind]

/-! ### Types of attributes -/

namespace Sample

/-- The double one. -/
def one : Value :=
  .double (some ⟨0x3ff0000000000000⟩)

/-- A day. -/
def day : Value :=
  .date (Date.ofText? "2024-05-01")

/-- Ten in the morning of that day. -/
def morning : Value :=
  .timestamp (Timestamp.ofText? "2024-05-01T10:00:00Z")

/-- Half past six in the evening of that day. -/
def evening : Value :=
  .timestamp (Timestamp.ofText? "2024-05-01T18:30:00Z")

end Sample

open Filter.Target.Sample (two huge)

/-- From two to one by way of `10 ^ 29`, which compares with neither of them. -/
theorem ascends_huge : Ascends two huge ∧ Ascends huge Sample.one ∧ ¬Ascends two Sample.one := by
  decide +kernel

/-- From the evening to the morning by way of their day, which equals both of them. -/
theorem ascends_day :
    Ascends Sample.evening Sample.day ∧ Ascends Sample.day Sample.morning ∧
      ¬Ascends Sample.evening Sample.morning := by
  decide +kernel

/-- An attribute takes the values of its type's kind. -/
theorem accepts_of_kind (hkind : v.kind = a.type.kind) : a.accepts v = true := by
  cases v with
  | null => rfl
  | date d => exact absurd hkind.symm a.type.kind_ne_date
  | _ => exact beq_iff_eq.2 hkind

/-- Values of an attribute of another type than dates and times are of one kind. -/
theorem oneKind_of_accepts (htype : a.type ≠ .dateTime) {vs : List Value}
    (hvs : ∀ v ∈ vs, a.accepts v = true) : OneKind vs := by
  have hkind : ∀ v ∈ vs, v.isNull = false → v.kind = a.type.kind := by
    intro v hv hnull
    have haccepts := hvs v hv
    cases v with
    | null => exact absurd hnull (by decide)
    | date d => exact absurd (eq_of_beq haccepts) htype
    | _ => exact eq_of_beq haccepts
  intro v hv w hw hvnull hwnull
  exact (hkind v hv hvnull).trans (hkind w hw hwnull).symm

/-- Values of an attribute of dates and times are dates and points in time. -/
theorem isMoment_of_accepts (htype : a.type = .dateTime) (hnull : v.isNull = false)
    (haccepts : a.accepts v = true) : IsMoment v := by
  cases v with
  | null => exact absurd hnull (by decide)
  | date d =>
    cases d with
    | none => exact absurd hnull (by decide)
    | some d => exact .date d
  | timestamp t =>
    cases t with
    | none => exact absurd hnull (by decide)
    | some t => exact .timestamp t
  | _ =>
    have hkind := eq_of_beq haccepts
    rw [htype] at hkind
    exact nomatch hkind

/-- The values of an attribute that ascend in two steps and not altogether. -/
theorem breaks_iff (hu : a.accepts u = true) (hv : a.accepts v = true) (hw : a.accepts w = true) :
    Ascends u v ∧ Ascends v w ∧ ¬Ascends u w ↔
      ¬v.InRange ∧ u.compare? w = some .gt ∨ AtOdds u v w := by
  have haccepts : ∀ x ∈ [u, v, w], a.accepts x = true := by simp [hu, hv, hw]
  constructor
  · rintro ⟨huv, hvw, hnot⟩
    have hgt := compare?_of_not_ascends huv hvw hnot
    -- among values of one kind the middle one is to blame, several kinds are dates and times
    by_cases hkinds : OneKind [u, v, w]
    · exact .inl ⟨fun hrange => hnot (ascends_trans hkinds hrange huv hvw), hgt⟩
    · have htype : a.type = .dateTime :=
        by_contra fun htype => hkinds (oneKind_of_accepts htype haccepts)
      obtain ⟨hunull, hwnull⟩ := isNull_of_compare?_eq_some hgt
      exact .inr (atOdds_of_breaks (isMoment_of_accepts htype hunull hu)
        (isMoment_of_accepts htype (isNull_of_ascends huv hunull) hv)
        (isMoment_of_accepts htype hwnull hw) hkinds huv hvw hgt)
  · rintro (⟨hrange, hgt⟩ | hodds)
    · obtain ⟨hdouble, hvnull⟩ := kind_of_not_inRange hrange
      obtain ⟨hunull, hwnull⟩ := isNull_of_compare?_eq_some hgt
      have htype : a.type ≠ .dateTime := by
        rw [(Attribute.kind_eq_double_iff hvnull hv).1 hdouble]
        decide
      have hkinds := oneKind_of_accepts htype haccepts
      refine ⟨?_, ?_, not_ascends_iff.2 (.inr hgt)⟩
      · exact ascends_of_not_inRange (hkinds u (by simp) v (by simp) hunull hvnull) hvnull
          (.inr hrange)
      · exact ascends_of_not_inRange (hkinds v (by simp) w (by simp) hvnull hwnull) hwnull
          (.inl hrange)
    · obtain ⟨huv, hvw, hgt⟩ := hodds.breaks
      exact ⟨huv, hvw, not_ascends_iff.2 (.inr hgt)⟩

/-- **Sort keys.** The order of a sort key is transitive on the values that an attribute takes, but
for a double out of range between two that descend, and for dates and points in time at odds. So it
is transitive on all of them if and only if the attribute is neither one of doubles nor one of dates
and times. -/
theorem ascends_trans_iff (a : Attribute) :
    (∀ u v w, a.accepts u = true → a.accepts v = true → a.accepts w = true →
      (Ascends u v ∧ Ascends v w ∧ ¬Ascends u w ↔
        ¬v.InRange ∧ u.compare? w = some .gt ∨ AtOdds u v w)) ∧
    ((∀ u v w, a.accepts u = true → a.accepts v = true → a.accepts w = true →
      Ascends u v → Ascends v w → Ascends u w) ↔ a.type ≠ .double ∧ a.type ≠ .dateTime) := by
  refine ⟨fun u v w hu hv hw => breaks_iff hu hv hw,
    fun htrans => ⟨fun htype => ?_, fun htype => ?_⟩, ?_⟩
  · have hdouble (x : Option Binary64) : a.accepts (.double x) = true :=
      accepts_of_kind (by rw [htype]; rfl)
    obtain ⟨hup, hon, hnot⟩ := ascends_huge
    exact hnot (htrans _ _ _ (hdouble _) (hdouble _) (hdouble _) hup hon)
  · have htimestamp (t : Option Timestamp) : a.accepts (.timestamp t) = true :=
      accepts_of_kind (by rw [htype]; rfl)
    have hdate : a.accepts Sample.day = true := beq_iff_eq.2 htype
    obtain ⟨hup, hon, hnot⟩ := ascends_day
    exact hnot (htrans _ _ _ (htimestamp _) hdate (htimestamp _) hup hon)
  · rintro ⟨hdouble, hdateTime⟩ u v w hu hv hw huv hvw
    refine ascends_trans (oneKind_of_accepts hdateTime (by simp [hu, hv, hw])) ?_ huv hvw
    by_contra hrange
    obtain ⟨hkind, hnull⟩ := kind_of_not_inRange hrange
    exact hdouble ((Attribute.kind_eq_double_iff hnull hv).1 hkind)

/-- A reading of `10 ^ 29` lies between two and one. -/
theorem ascends_trans_iff_reading :
    (∀ v ∈ [two, huge, Sample.one], (Attribute.ofType "reading" .double).accepts v = true) ∧
      Ascends two huge ∧ Ascends huge Sample.one ∧ ¬Ascends two Sample.one := by
  have haccepts : ∀ v ∈ [two, huge, Sample.one],
      (Attribute.ofType "reading" .double).accepts v = true := by decide +kernel
  have hrange : ¬huge.InRange := by
    show ¬Value.InRange (.double (some _))
    rw [inRange_double]
    decide +kernel
  have hexact := (ascends_trans_iff (.ofType "reading" .double)).1 two huge Sample.one
    (haccepts _ (by simp)) (haccepts _ (by simp)) (haccepts _ (by simp))
  exact ⟨haccepts, hexact.2 (.inl ⟨hrange, by decide +kernel⟩)⟩

/-- A reading of two does not come behind one of `10 ^ 29`, nor that behind one of one, and the two
comes behind the one. So do the evening, the day and the morning as values of dates and times. -/
theorem ascends_trans_huge :
    ((∀ v ∈ [two, huge, Sample.one], (Attribute.ofType "reading" .double).accepts v = true) ∧
      Ascends two huge ∧ Ascends huge Sample.one ∧ ¬Ascends two Sample.one) ∧
    ((∀ v ∈ [Sample.evening, Sample.day, Sample.morning],
        (Attribute.ofType "visited" .dateTime).accepts v = true) ∧
      Ascends Sample.evening Sample.day ∧ Ascends Sample.day Sample.morning ∧
      ¬Ascends Sample.evening Sample.morning) :=
  ⟨⟨by decide +kernel, ascends_huge⟩, by decide +kernel, ascends_day⟩

end SortKey

end RecordService
