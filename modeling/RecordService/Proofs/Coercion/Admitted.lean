import RecordService.Coercion
import RecordService.Proofs.Answer
import RecordService.Proofs.Number.Decimal.Value
import RecordService.Proofs.Time.Text

namespace RecordService.Attribute

/-!
# The values of an attribute

What an attribute makes of loose data is a value of its type's kind, which keeps to what the
attribute declares: the places of decimals, the behavior of dates, codes and targets.

* `Admits`: the values that an attribute can get.
* `coerceByKind`: coercion of all but nulls and lists, by the kind of the type.
* `admits_of_coerceJson`: loose data become values that the attribute admits.
-/

variable {a : Attribute} {j : Json} {v : Value}

/-! ### The values -/

/-- The places of a decimal are no more than the attribute keeps. -/
def KeepsPlaces (a : Attribute) (d : Decimal) : Prop :=
  ∀ places, a.precision = some places → d.scale ≤ places

/-- The values that an attribute can get out of loose data. -/
inductive Admits (a : Attribute) : Value → Prop
  | empty : Admits a a.type.emptyValue
  | text (hkind : a.type.kind = .text) (s : String) : Admits a (.text (some s))
  | int32 (hkind : a.type.kind = .int32) (n : Int32) : Admits a (.int32 (some n))
  | int64 (hkind : a.type.kind = .int64) (n : Int64) : Admits a (.int64 (some n))
  | double (hkind : a.type.kind = .double) (x : Binary64) : Admits a (.double (some x))
  | decimal (hkind : a.type.kind = .decimal) {d : Decimal} (hplaces : a.KeepsPlaces d) :
      Admits a (.decimal (some d))
  | money (hkind : a.type.kind = .money) {d : Decimal} (hplaces : a.KeepsPlaces d) :
      Admits a (.money (some d))
  | boolean (hkind : a.type.kind = .boolean) (b : Bool) : Admits a (.boolean (some b))
  | date (hkind : a.type.kind = .timestamp) (hbehavior : a.behavior = .dateOnly) (d : Date) :
      Admits a (.date (some d))
  | timestamp (hkind : a.type.kind = .timestamp) (hbehavior : a.behavior ≠ .dateOnly)
      {t : Timestamp} (hminute : 60 ∣ t.offset) : Admits a (.timestamp (some t))
  | choice (hkind : a.type.kind = .choice) {c : Choice}
      (hcode : a.choiceOfCode c.code.toInt64 = .ok (.choice (some c))) :
      Admits a (.choice (some c))
  | reference (hkind : a.type.kind = .reference) {r : Reference}
      (htarget : a.checkTarget r = .ok (.reference (some r))) :
      Admits a (.reference (some r))
  | uuid (hkind : a.type.kind = .uuid) (u : Uuid) : Admits a (.uuid (some u))

/-! ### Coercion by kind -/

/-- Coercion of all but nulls and lists. -/
def coerceByKind (a : Attribute) (j : Json) : ValueKind → Answer Value
  | .text => a.coerceText j
  | .int32 => do
    let n ← a.readInteger j
    a.orMismatch (Value.intText n.toInt) ((narrow? n).map fun m => .int32 (some m))
  | .int64 => (a.readInteger j).map fun n => .int64 (some n)
  | .double => a.coerceDouble j
  | .decimal => (a.coerceDecimal j).map fun d => .decimal (some d)
  | .money => (a.coerceDecimal j).map fun d => .money (some d)
  | .boolean => a.coerceBoolean j
  | .timestamp => a.coerceDateTime j
  | .choice => a.coerceChoice j
  | .reference => Reference.ofJson a j >>= a.checkTarget
  | .uuid => a.coerceUuid j
  | .null => a.mismatch j.toText
  | .date => a.mismatch j.toText

/-- Loose data other than nulls and lists. -/
def IsSingle : Json → Prop
  | .null => False
  | .array _ => False
  | _ => True

/-- The type of an attribute matters for its kind alone. -/
theorem coerceJson_eq_coerceByKind {kind : ValueKind} (hkind : a.type.kind = kind)
    (h : IsSingle j) : a.coerceJson j = a.coerceByKind j kind := by
  subst hkind
  cases j with
  | null => exact h.elim
  | array items => exact h.elim
  | _ =>
    rw [coerceJson]
    · cases a.type <;> rfl
    · exact nofun
    · exact nofun

/-! ### Coercion to each kind -/

/-- A value that may be missing is taken exactly if it is there. -/
theorem orMismatch_eq_ok {α : Type} {text : String} {o : Option α} {x : α} :
    a.orMismatch text o = .ok x ↔ o = some x := by
  cases o with
  | none => exact ⟨nofun, nofun⟩
  | some y =>
    refine ⟨fun h => congrArg some (Except.ok.inj h), fun h => ?_⟩
    rw [Option.some.inj h]
    rfl

/-- Text that was read for an attribute of text is admitted by it. -/
theorem admits_of_coerceText (hkind : a.type.kind = .text) (h : a.coerceText j = .ok v) :
    a.Admits v := by
  cases j with
  | null => exact nomatch h
  | array items => exact nomatch h
  | object members => exact nomatch h
  | _ =>
    cases h
    exact .text hkind _

/-- A double is admitted whatever form it was read from. -/
theorem admits_of_coerceDouble (hkind : a.type.kind = .double) (h : a.coerceDouble j = .ok v) :
    a.Admits v := by
  unfold coerceDouble at h
  split at h
  · obtain ⟨x, -, rfl⟩ := Answer.map_eq_ok.1 h
    exact .double hkind x
  · obtain ⟨x, -, rfl⟩ := Answer.map_eq_ok.1 h
    exact .double hkind x

/-- A decimal with the places that the attribute keeps. -/
def keepPlaces (a : Attribute) (d : Decimal) : Decimal :=
  match a.precision with
  | some places => d.roundTo places
  | none => d

/-- Rounding leaves no more places than the attribute keeps. -/
theorem keepsPlaces_keepPlaces (a : Attribute) (d : Decimal) : a.KeepsPlaces (a.keepPlaces d) := by
  intro places hplaces
  rw [keepPlaces, hplaces]
  exact Decimal.scale_roundTo_le places d

/-- No decimal that was read has more places than the attribute keeps. -/
theorem keepsPlaces_of_coerceDecimal {d : Decimal} (h : a.coerceDecimal j = .ok d) :
    a.KeepsPlaces d := by
  unfold coerceDecimal at h
  obtain ⟨d', -, rfl⟩ := Answer.map_eq_ok.1 h
  exact a.keepsPlaces_keepPlaces d'

/-- A truth value is admitted whatever form it was read from. -/
theorem admits_of_coerceBoolean (hkind : a.type.kind = .boolean)
    (h : a.coerceBoolean j = .ok v) : a.Admits v := by
  cases j with
  | bool b =>
    cases h
    exact .boolean hkind b
  | int n =>
    rw [coerceBoolean] at h
    obtain ⟨m, -, rfl⟩ := Answer.map_eq_ok.1 h
    exact .boolean hkind _
  | double x =>
    rw [coerceBoolean] at h
    obtain ⟨m, -, rfl⟩ := Answer.map_eq_ok.1 h
    exact .boolean hkind _
  | string s =>
    simp only [coerceBoolean] at h
    split at h
    · cases h
      exact .boolean hkind true
    · split at h
      · cases h
        exact .boolean hkind false
      · split at h
        · cases h
          exact .boolean hkind _
        · exact nomatch h
  | _ => exact nomatch h

/-- A point in time is admitted as read: a date alone where the behavior asks for it, and everywhere
else a time whose offset is in whole minutes. -/
theorem admits_of_coerceDateTime (hkind : a.type.kind = .timestamp)
    (h : a.coerceDateTime j = .ok v) : a.Admits v := by
  cases j with
  | string s =>
    rw [coerceDateTime] at h
    split at h
    · rename_i hbehavior
      obtain ⟨d, -, rfl⟩ := Answer.map_eq_ok.1 h
      exact .date hkind hbehavior d
    · rename_i hbehavior
      obtain ⟨t, ht, rfl⟩ := Answer.map_eq_ok.1 h
      -- whatever form the text has, its offset is one of whole minutes
      have hread := Timestamp.read_eq_ok.1 (Answer.mapError_eq_ok.1 ht)
      exact .timestamp hkind hbehavior (Timestamp.dvd_offset_of_ofText? hread)
  | _ => exact nomatch h

/-- An identifier that was read is admitted. -/
theorem admits_of_coerceUuid (hkind : a.type.kind = .uuid) (h : a.coerceUuid j = .ok v) :
    a.Admits v := by
  cases j with
  | string s =>
    rw [coerceUuid] at h
    split at h
    · cases h
      exact .uuid hkind _
    · exact nomatch h
  | _ => exact nomatch h

/-! ### Choices and references -/

/-- A code that is taken as one of 32 bits is the same number. -/
theorem toInt64_of_narrow? {n : Int64} {m : Int32} (h : narrow? n = some m) : m.toInt64 = n := by
  unfold narrow? at h
  split at h
  · rename_i hrange
    obtain ⟨hlow, hhigh⟩ := hrange
    cases h
    rw [← Int64.toInt_inj, Int32.toInt_toInt64, Int64.toInt_toInt32]
    exact Int.bmod_eq_of_le (by omega) (by omega)
  · exact nomatch h

/-- A code becomes a choice of that code. -/
theorem choiceOfCode_eq_ok {code : Int64} (h : a.choiceOfCode code = .ok v) :
    ∃ c : Choice, v = .choice (some c) ∧ c.code.toInt64 = code := by
  rw [choiceOfCode] at h
  split at h
  · exact nomatch h
  · rename_i m hm
    have hcode := toInt64_of_narrow? hm
    split at h
    · cases h
      exact ⟨⟨m, none⟩, rfl, hcode⟩
    · split at h
      · cases h
        exact ⟨⟨m, _⟩, rfl, hcode⟩
      · exact nomatch h

/-- A code comes with the label of its option, as the attribute asks for. -/
theorem admits_of_choiceOfCode (hkind : a.type.kind = .choice) {code : Int64}
    (h : a.choiceOfCode code = .ok v) : a.Admits v := by
  obtain ⟨c, rfl, rfl⟩ := choiceOfCode_eq_ok h
  exact .choice hkind h

/-- A choice is admitted, as labels are first turned into codes and codes into options. -/
theorem admits_of_coerceChoice (hkind : a.type.kind = .choice) (h : a.coerceChoice j = .ok v) :
    a.Admits v := by
  -- every way to a choice ends with the choice of a code
  have hread : ∀ {j : Json}, a.readInteger j >>= a.choiceOfCode = .ok v → a.Admits v := by
    intro j hj
    obtain ⟨code, -, hcode⟩ := Answer.bind_eq_ok.1 hj
    exact admits_of_choiceOfCode hkind hcode
  unfold coerceChoice at h
  split at h
  · split at h
    · exact hread h
    · split at h
      · exact admits_of_choiceOfCode hkind h
      · exact nomatch h
  · split at h
    · exact hread h
    · exact nomatch h
  · exact hread h

/-- Checking the target of a reference does not change it. -/
theorem checkTarget_eq_ok {r : Reference} (h : a.checkTarget r = .ok v) :
    v = .reference (some r) := by
  unfold checkTarget at h
  split at h
  · exact nomatch h
  · exact (Except.ok.inj h).symm

/-! ### Soundness -/

/-- Coercion by the kind of the type gives a value that the attribute admits. -/
theorem admits_of_coerceByKind (h : a.coerceByKind j a.type.kind = .ok v) : a.Admits v := by
  generalize hkind : a.type.kind = kind at h
  cases kind with
  -- no type has one of these two kinds
  | null => exact nomatch h
  | date => exact nomatch h
  | boolean => exact admits_of_coerceBoolean hkind h
  | int32 =>
    obtain ⟨n, -, h⟩ := Answer.bind_eq_ok.1 h
    obtain ⟨m, -, rfl⟩ := Option.map_eq_some_iff.1 (orMismatch_eq_ok.1 h)
    exact .int32 hkind m
  | int64 =>
    obtain ⟨n, -, rfl⟩ := Answer.map_eq_ok.1 h
    exact .int64 hkind n
  | double => exact admits_of_coerceDouble hkind h
  | decimal =>
    obtain ⟨d, hd, rfl⟩ := Answer.map_eq_ok.1 h
    exact .decimal hkind (keepsPlaces_of_coerceDecimal hd)
  | money =>
    obtain ⟨d, hd, rfl⟩ := Answer.map_eq_ok.1 h
    exact .money hkind (keepsPlaces_of_coerceDecimal hd)
  | text => exact admits_of_coerceText hkind h
  | timestamp => exact admits_of_coerceDateTime hkind h
  | uuid => exact admits_of_coerceUuid hkind h
  | choice => exact admits_of_coerceChoice hkind h
  | reference =>
    obtain ⟨r, -, hr⟩ := Answer.bind_eq_ok.1 h
    obtain rfl := checkTarget_eq_ok hr
    exact .reference hkind hr

/-- **Soundness.** Loose data become values that the attribute admits. -/
theorem admits_of_coerceJson (h : a.coerceJson j = .ok v) : a.Admits v := by
  cases j with
  | null =>
    cases h
    exact .empty
  | array items => exact nomatch h
  | _ =>
    rw [coerceJson_eq_coerceByKind rfl (by exact trivial)] at h
    exact admits_of_coerceByKind h

end RecordService.Attribute
