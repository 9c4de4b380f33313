import RecordService.Proofs.Coercion.Admitted
import RecordService.Proofs.Number.Decimal.Text
import RecordService.Proofs.Uuid

namespace RecordService

/-!
# Rendered values come back

What loose data became is rendered as loose data again, and these become the same value.

* `Value.Renderable`: the values that have a loose form.
* `Value.Same`: equality of values, decimals being compared by value.
* `Attribute.coerceJson_toJson`: the values that an attribute admits, kind by kind.
* `Attribute.coerce_render`: the round trip.
-/

namespace Value

/-! ### The values that are compared -/

/-- Doubles have to be finite, and points in time need a text of RFC 3339. -/
def Renderable : Value → Prop
  | double (some x) => x.isFinite = true
  | timestamp (some t) => t.HasText
  | _ => True

/-- Equality of values, decimals being compared by value. -/
def Same : Value → Value → Prop
  | decimal (some d), decimal (some e) => d.sameValue e = true
  | money (some d), money (some e) => d.sameValue e = true
  | v, w => v = w

/-- A value is the same as itself. -/
@[simp] theorem same_refl (v : Value) : v.Same v := by
  cases v with
  | decimal d => cases d <;> simp [Same]
  | money d => cases d <;> simp [Same]
  | _ => rfl

end Value

/-! ### Integers -/

namespace Json

/-- An integer of 64 bits is told by its value. -/
theorem int64?_toInt (n : Int64) : (int n.toInt).int64? = some n := by
  have hrange : -2 ^ 63 ≤ n.toInt ∧ n.toInt < 2 ^ 63 := ⟨n.le_toInt, n.toInt_lt⟩
  rw [int64?, if_pos hrange, Int64.ofInt_toInt]

end Json

/-- A number of 32 bits is found again in 64 bits. -/
theorem narrow?_toInt64 (n : Int32) : narrow? n.toInt64 = some n := by
  have hrange : -2 ^ 31 ≤ n.toInt64.toInt ∧ n.toInt64.toInt < 2 ^ 31 := by
    rw [Int32.toInt_toInt64]
    exact ⟨n.le_toInt, n.toInt_lt⟩
  rw [narrow?, if_pos hrange, Int32.toInt32_toInt64]

namespace Attribute

variable {a : Attribute}

/-- An integer of 64 bits is read back from its value. -/
theorem readInteger_toInt (n : Int64) : a.readInteger (.int n.toInt) = .ok n := by
  have hread := Json.int64?_toInt n
  simp only [readInteger, hread]
  rfl

/-- An integer of 32 bits is read back from its value. -/
theorem readInteger_toInt32 (n : Int32) : a.readInteger (.int n.toInt) = .ok n.toInt64 := by
  rw [← Int32.toInt_toInt64, readInteger_toInt]

/-! ### Decimals -/

/-- What is read with the value of a decimal that keeps its places has that value in the end. -/
theorem sameValue_keepPlaces {d d' : Decimal} (h : d'.sameValue d = true)
    (hplaces : a.KeepsPlaces d) : (a.keepPlaces d').sameValue d = true := by
  rw [keepPlaces]
  split
  · rename_i places hprecision
    exact Decimal.sameValue_roundTo h (hplaces places hprecision)
  · exact h

/-- The double that stands for a decimal is finite, and its JSON text has the decimal's value. -/
theorem decimalOfNumber?_exactBinary64? {d : Decimal} {x : Binary64}
    (h : d.exactBinary64? = some x) :
    ∃ d', decimalOfNumber? (.double x) = some d' ∧ d'.sameValue d = true := by
  rw [Decimal.exactBinary64?] at h
  split at h
  · rename_i back hback
    split at h
    · rename_i hvalue
      cases h
      have hfinite := Decimal.isFinite_of_ofText? hback
      have htext : (Json.double d.toBinary64).toText = d.toBinary64.toText Binary64.jsonLayout := by
        rw [Json.toText, Json.chars, if_pos hfinite, String.ofList_toList]
      refine ⟨back, ?_, hvalue⟩
      rw [decimalOfNumber?, Json.int64?, htext, Decimal.ofText?_jsonLayout, hback]
      exact nofun
    · exact nomatch h
  · exact nomatch h

/-- A decimal is rendered as an integer, a double or a text. What is read from it has the decimal's
value until the attribute rounds it. -/
theorem coerceDecimal_toJson_eq (a : Attribute) (d : Decimal) :
    ∃ d', a.coerceDecimal d.toJson = .ok (a.keepPlaces d') ∧ d'.sameValue d = true := by
  rw [Decimal.toJson]
  -- an integer of 64 bits, a double that denotes the decimal, or its text
  split
  · rename_i hwhole
    obtain ⟨hwhole, hlow, hhigh⟩ := hwhole
    have hread : decimalOfNumber? (.int d.truncate) = some (.ofInt64 (Int64.ofInt d.truncate)) := by
      rw [decimalOfNumber?, Json.int64?, if_pos ⟨hlow, hhigh⟩]
    refine ⟨_, ?_, Decimal.sameValue_ofInt64 hwhole (Int64.toInt_ofInt_of_le hlow hhigh)⟩
    rw [coerceDecimal, hread]
    rfl
  · split
    · rename_i x hdouble
      obtain ⟨d', hread, hvalue⟩ := decimalOfNumber?_exactBinary64? hdouble
      refine ⟨d', ?_, hvalue⟩
      rw [coerceDecimal, hread]
      rfl
    · obtain ⟨d', hread, hvalue⟩ := d.ofText?_toText
      refine ⟨d', ?_, hvalue⟩
      rw [coerceDecimal, d.trim_toText, hread]
      rfl

/-- A decimal that keeps its places is rendered and read with its value. -/
theorem coerceDecimal_toJson {d : Decimal} (hplaces : a.KeepsPlaces d) :
    ∃ d', a.coerceDecimal d.toJson = .ok d' ∧ d'.sameValue d = true := by
  obtain ⟨d', hread, hvalue⟩ := a.coerceDecimal_toJson_eq d
  exact ⟨_, hread, sameValue_keepPlaces hvalue hplaces⟩

end Attribute

/-! ### References -/

/-- A member under one of the names is found if it is no null. -/
theorem Json.namedMember?_cons_pos {names : List String} {name : String} {value : Json}
    (hname : isNameIn names name = true) (hvalue : value.isNull = false)
    (members : List (String × Json)) :
    namedMember? names ((name, value) :: members) = some value := by
  have hfind : ((name, value) :: members).find? (fun member => isNameIn names member.1) =
      some (name, value) := List.find?_cons_of_pos hname
  rw [namedMember?, hfind, Option.map_some, Option.filter_some]
  simp [hvalue]

/-- A member under another name is passed over. -/
theorem Json.namedMember?_cons_neg {names : List String} {name : String}
    (hname : isNameIn names name = false) (value : Json) (members : List (String × Json)) :
    namedMember? names ((name, value) :: members) = namedMember? names members := by
  rw [namedMember?, List.find?_cons_of_neg (by simp [hname]), ← namedMember?]

/-- A reference is an object of two members, or of three if it has a name. -/
theorem Reference.toJson_eq (entity : String) (id : Uuid) (name : Option String) :
    toJson ⟨entity, id, name⟩ =
      .object (("Id", .string id.toText) :: ("TableName", .string entity) ::
        match name with
        | some name => [("Name", .string name)]
        | none => []) := rfl

/-- A reference is read from its object, whatever the attribute points to. -/
theorem Reference.ofJson_toJson (a? : Option Attribute) (r : Reference) :
    Reference.ofJson a? r.toJson = .ok r := by
  obtain ⟨entity, id, name⟩ := r
  have hid (members : List (String × Json)) :
      Json.namedMember? idKeys (("Id", .string id.toText) :: members) = some (.string id.toText) :=
    Json.namedMember?_cons_pos (by decide) rfl members
  have hentity (members : List (String × Json)) : Json.namedMember? entityKeys
      (("Id", .string id.toText) :: ("TableName", .string entity) :: members) =
        some (.string entity) := by
    rw [Json.namedMember?_cons_neg (by decide), Json.namedMember?_cons_pos (by decide) rfl]
  have hname (members : List (String × Json)) : Json.namedMember? nameKeys
      (("Id", .string id.toText) :: ("TableName", .string entity) :: members) =
        Json.namedMember? nameKeys members := by
    rw [Json.namedMember?_cons_neg (by decide), Json.namedMember?_cons_neg (by decide)]
  have hread : Uuid.ofText? (Text.trim id.toText) = some id := by
    rw [id.trim_toText, id.ofText?_toText]
  cases name with
  | none =>
    rw [toJson_eq, ofJson]
    simp only [hid, hentity, hname, Option.bind_some, Json.text?, hread]
    rfl
  | some name =>
    have hlast : Json.namedMember? nameKeys [("Name", .string name)] = some (.string name) :=
      Json.namedMember?_cons_pos (by decide) rfl []
    rw [toJson_eq, ofJson]
    simp only [hid, hentity, hname, hlast, Option.bind_some, Json.text?, hread]
    rfl

/-! ### The round trip -/

namespace Attribute

variable {a : Attribute}

/-- A decimal is rendered neither as null nor as a list. -/
theorem isSingle_toJson (d : Decimal) : IsSingle d.toJson := by
  rw [Decimal.toJson]
  split
  · trivial
  · split <;> trivial

/-- Of a choice the code alone is rendered, and the attribute knows the label. -/
theorem coerceJson_choice (hkind : a.type.kind = .choice) (c : Choice) :
    a.coerceJson (Value.choice (some c)).toJson = a.choiceOfCode c.code.toInt64 := by
  rw [Value.toJson, coerceJson_eq_coerceByKind hkind (by exact trivial), coerceByKind, coerceChoice,
    readInteger_toInt32, Answer.ok_bind]
  -- a code is neither a text nor an object
  · intro s hs
    cases hs
  · intro members hmembers
    cases hmembers

/-- A reference is read from its object, and its entity is checked. -/
theorem coerceJson_reference (hkind : a.type.kind = .reference) (r : Reference) :
    a.coerceJson (Value.reference (some r)).toJson = a.checkTarget r := by
  rw [Value.toJson, coerceJson_eq_coerceByKind hkind (by exact trivial), coerceByKind,
    Reference.ofJson_toJson, Answer.ok_bind]

/-- A value that an attribute admits is rendered as loose data that become the same value. -/
theorem coerceJson_toJson {v : Value} (h : a.Admits v) (hv : v.Renderable) :
    ∃ v', a.coerceJson v.toJson = .ok v' ∧ v'.Same v := by
  cases h with
  | empty =>
    -- the nulls of all types are rendered alike, and the type brings back its own
    have hnull : a.type.emptyValue.toJson = .null := by cases a.type <;> rfl
    refine ⟨a.type.emptyValue, ?_, Value.same_refl _⟩
    rw [hnull, coerceJson]
  | text hkind s =>
    refine ⟨.text (some s), ?_, Value.same_refl _⟩
    rw [Value.toJson, coerceJson_eq_coerceByKind hkind (by exact trivial)]
    rfl
  | int32 hkind n =>
    refine ⟨.int32 (some n), ?_, Value.same_refl _⟩
    rw [Value.toJson, coerceJson_eq_coerceByKind hkind (by exact trivial), coerceByKind,
      readInteger_toInt32, Answer.ok_bind, narrow?_toInt64]
    rfl
  | int64 hkind n =>
    refine ⟨.int64 (some n), ?_, Value.same_refl _⟩
    rw [Value.toJson, coerceJson_eq_coerceByKind hkind (by exact trivial), coerceByKind,
      readInteger_toInt]
    rfl
  | double hkind x =>
    refine ⟨.double (some x), ?_, Value.same_refl _⟩
    rw [Value.toJson, Json.ofBinary64, if_pos (show x.isFinite = true from hv),
      coerceJson_eq_coerceByKind hkind (by exact trivial)]
    rfl
  | @decimal hkind d hplaces =>
    obtain ⟨d', hread, hvalue⟩ := coerceDecimal_toJson hplaces
    refine ⟨.decimal (some d'), ?_, hvalue⟩
    rw [Value.toJson, coerceJson_eq_coerceByKind hkind (isSingle_toJson d), coerceByKind, hread]
    rfl
  | @money hkind d hplaces =>
    obtain ⟨d', hread, hvalue⟩ := coerceDecimal_toJson hplaces
    refine ⟨.money (some d'), ?_, hvalue⟩
    rw [Value.toJson, coerceJson_eq_coerceByKind hkind (isSingle_toJson d), coerceByKind, hread]
    rfl
  | boolean hkind b =>
    refine ⟨.boolean (some b), ?_, Value.same_refl _⟩
    rw [Value.toJson, coerceJson_eq_coerceByKind hkind (by exact trivial)]
    rfl
  | date hkind hbehavior d =>
    have hread : Date.read d.toText = .ok d := by
      rw [Date.read, d.ofText?_toText]
    refine ⟨.date (some d), ?_, Value.same_refl _⟩
    rw [Value.toJson, coerceJson_eq_coerceByKind hkind (by exact trivial), coerceByKind,
      coerceDateTime, if_pos hbehavior, hread]
    rfl
  | @timestamp hkind hbehavior t hminute =>
    have hread : Timestamp.read t.toText = .ok t := by
      rw [Timestamp.read, Timestamp.ofText?_toText hv hminute]
    refine ⟨.timestamp (some t), ?_, Value.same_refl _⟩
    rw [Value.toJson, coerceJson_eq_coerceByKind hkind (by exact trivial), coerceByKind,
      coerceDateTime, if_neg hbehavior, hread]
    rfl
  | choice hkind hcode => exact ⟨_, (coerceJson_choice hkind _).trans hcode, Value.same_refl _⟩
  | reference hkind htarget =>
    exact ⟨_, (coerceJson_reference hkind _).trans htarget, Value.same_refl _⟩
  | uuid hkind u =>
    refine ⟨.uuid (some u), ?_, Value.same_refl _⟩
    rw [Value.toJson, coerceJson_eq_coerceByKind hkind (by exact trivial), coerceByKind,
      coerceUuid, u.trim_toText, u.ofText?_toText]

/-- **Round trip.** What an attribute makes of loose data is rendered, and the attribute makes the
same value of what was rendered. -/
theorem coerce_render {j : Json} {v : Value} (h : a.coerce (.loose j) = .ok v)
    (hv : v.Renderable) :
    ∃ j', a.render .default v = .ok j' ∧ ∃ v', a.coerce (.loose j') = .ok v' ∧ v'.Same v :=
  ⟨v.toJson, rfl, coerceJson_toJson (admits_of_coerceJson h) hv⟩

/-- An amount of three places loses the last one, and what is left of it comes back. -/
theorem coerce_render_money :
    (ofType "total" .money).coerce (.loose (.string "12.345")) =
        .ok (.money (some ⟨false, 1234, 2, by decide, by decide⟩)) ∧
      ∃ j', (ofType "total" .money).render .default
          (.money (some ⟨false, 1234, 2, by decide, by decide⟩)) = .ok j' ∧
        ∃ v', (ofType "total" .money).coerce (.loose j') = .ok v' ∧
          v'.Same (.money (some ⟨false, 1234, 2, by decide, by decide⟩)) :=
  ⟨rfl, coerce_render (j := .string "12.345") rfl trivial⟩

end Attribute

end RecordService
