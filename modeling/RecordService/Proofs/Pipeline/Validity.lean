import RecordService.Proofs.Coercion.Suitable
import RecordService.Proofs.Pipeline.Records

namespace RecordService

/-!
# Whether a store takes the record of a request

The record of a request names declared attributes and has values that they made, so that a store
with the same declarations refuses it only for attributes that cannot be written. There is one
exception. An attribute is hidden if an earlier one has its name but for the case of letters; a null
that is set to clear it is then checked against the earlier one, which may be of another kind.

* `Entity.check_cases`: the outcomes of a check.
* `Classifier.entry_of_record`: where the entries of a record come from.
* `Classifier.check_record`: the outcomes of the check of a record that was made for a request.
-/

/-! ### Checks -/

/-- Whether an attribute may be written when a record is created, or else when it is changed. -/
def Attribute.validFor (a : Attribute) (creating : Bool) : Bool :=
  if creating then a.validForCreate else a.validForUpdate

namespace Entity

variable {e : Entity}

/-- The fault of an attribute that cannot be written. -/
def unwritable (e : Entity) (name : String) : Fault :=
  ⟨Fault.invalidCode, "`" ++ e.name ++ "." ++ name ++ "`" ++ " cannot be written"⟩

/-- The fault of a value that is none of an attribute. -/
def misfit (e : Entity) (a : Attribute) (name : String) (v : Value) : Fault :=
  ⟨Fault.invalidCode,
    "`" ++ v.toText ++ "` is not a valid " ++ a.type.name ++ " value for " ++
      ("`" ++ e.name ++ "." ++ name ++ "`")⟩

/-- The check of a value for a declared attribute. -/
theorem checkValue_eq {name : String} {a : Attribute} (ha : e.attribute? name = some a)
    (creating : Bool) (v : Value) :
    e.checkValue creating name v =
      if a.validFor creating = false then .error (e.unwritable name)
      else if a.accepts v = false then .error (e.misfit a name v)
      else .ok () := by
  unfold checkValue Attribute.validFor
  rw [ha]
  dsimp only
  cases (if creating then a.validForCreate else a.validForUpdate) <;> cases a.accepts v <;> rfl

/-- A check succeeds, or it ends with the fault of one of the attributes. -/
theorem check_cases (e : Entity) (creating : Bool) (r : Record) :
    e.check creating r = .ok () ∨
      ∃ entry ∈ r.attributes.entries, ∃ fault,
        e.checkValue creating entry.1 entry.2 = .error fault ∧
          e.check creating r = .error fault := by
  rw [show e.check creating r =
    r.attributes.entries.forM fun entry => e.checkValue creating entry.1 entry.2 from rfl]
  induction r.attributes.entries with
  | nil => exact .inl rfl
  | cons entry entries ih =>
    have hcons : (entry :: entries).forM (fun entry => e.checkValue creating entry.1 entry.2) =
        e.checkValue creating entry.1 entry.2 >>= fun _ =>
          entries.forM fun entry => e.checkValue creating entry.1 entry.2 := rfl
    rw [hcons]
    cases hvalue : e.checkValue creating entry.1 entry.2 with
    | error fault => exact .inr ⟨entry, List.mem_cons_self, fault, hvalue, rfl⟩
    | ok u =>
      rcases ih with hok | ⟨other, hother, fault, hfault, herror⟩
      · exact .inl hok
      · exact .inr ⟨other, List.mem_cons_of_mem _ hother, fault, hfault, herror⟩

end Entity

/-! ### The record of a request -/

namespace Classifier

variable {c : Classifier} {operation : Operation} {i : Input} {a b : Attribute} {r : Record}

/-- Where an attribute is cleared, those that its name finds may not be changed or are cleared. -/
theorem clearsMissing_congr (hname : Text.eqIgnoreCase a.name b.name = true)
    (hb : c.clearsMissing operation b = true) :
    c.clearsMissing operation a = a.validForUpdate := by
  simp only [clearsMissing, Bool.and_eq_true, Bool.not_eq_true'] at hb
  simp [clearsMissing, isNameIn_congr hname, hb]

/-- Every entry of a record was made by the attribute that its name finds, or it is the null of an
attribute that was cleared and is hidden by one that may not be changed. -/
theorem entry_of_record {id : Option Uuid} (h : c.record i (operation, id) = .ok r)
    {entry : String × Value} (hentry : entry ∈ r.attributes.entries) :
    ∃ a, c.entity.attribute? entry.1 = some a ∧
      (a.Suits entry.2 ∨ a.validForUpdate = false ∧
        ∃ b ∈ c.entity.attributes, a ≠ b ∧ entry = (b.name, b.type.emptyValue) ∧
          c.clearsMissing operation b = true) := by
  obtain ⟨written, hwritten, rfl⟩ := record_eq_ok h
  rcases mem_foldl_clear [] nofun hentry with hset | ⟨b, hb, rfl, hclears, hfirst⟩
  · obtain ⟨w, a, ha, hv, hname⟩ := exists_converts hwritten hset
    refine ⟨a, ?_, .inl (Attribute.suits_of_coerce hv)⟩
    rw [hname]
    exact Entity.attribute?_name ha
  · cases ha : c.entity.attribute? b.name with
    | none =>
      -- at least its own name finds it
      have hself := List.find?_eq_none.1 ha b hb
      exact absurd (Text.eqIgnoreCase_self _) hself
    | some a =>
      refine ⟨a, rfl, ?_⟩
      by_cases hab : a = b
      · rw [hab]
        exact .inl b.suits_emptyValue
      · have hkept := (hfirst a ha).resolve_left hab
        rw [clearsMissing_congr (Entity.eqIgnoreCase_of_attribute? ha) hclears] at hkept
        exact .inr ⟨hkept, b, hb, hab, rfl, hclears⟩

/-- **Validity.** A store with the same declarations takes the record of a request, or refuses it
because an attribute cannot be written; it never misses an attribute. Only where a record is
created out of a request that clears what is missing may it also refuse a null: that of an attribute
whose name, but for the case of letters, is that of an earlier one of another kind that may not be
changed. -/
theorem check_record {id : Option Uuid} (h : c.record i (operation, id) = .ok r)
    (creating : Bool) :
    c.entity.check creating r = .ok () ∨
      (∃ entry ∈ r.attributes.entries, ∃ a, c.entity.attribute? entry.1 = some a ∧
        a.validFor creating = false ∧
        c.entity.check creating r = .error (c.entity.unwritable entry.1)) ∨
      (¬c.entity.NamesDiffer ∧ creating = true ∧
        ∃ b ∈ c.entity.attributes, c.clearsMissing operation b = true ∧
          (b.name, b.type.emptyValue) ∈ r.attributes.entries ∧
          ∃ a, c.entity.attribute? b.name = some a ∧ a.validForUpdate = false ∧
            a.type.kind ≠ b.type.kind ∧
            c.entity.check creating r =
              .error (c.entity.misfit a b.name b.type.emptyValue)) := by
  rcases c.entity.check_cases creating r with hok | ⟨entry, hentry, fault, hfault, herror⟩
  · exact .inl hok
  · obtain ⟨a, ha, hmade⟩ := entry_of_record h hentry
    rw [Entity.checkValue_eq ha] at hfault
    right
    by_cases hvalid : a.validFor creating = false
    · rw [if_pos hvalid] at hfault
      cases hfault
      exact .inl ⟨entry, hentry, a, ha, hvalid, herror⟩
    · rw [if_neg hvalid] at hfault
      by_cases haccepts : a.accepts entry.2 = false
      · rw [if_pos haccepts] at hfault
        cases hfault
        have hsuits : ¬a.Suits entry.2 := by
          rw [← Attribute.accepts_iff_suits, haccepts]
          exact Bool.false_ne_true
        -- what coercion makes suits the attribute, so this is the null of one that was cleared
        obtain ⟨hkept, b, hb, hab, rfl, hclears⟩ := hmade.resolve_left hsuits
        refine .inr ⟨?_, ?_, b, hb, hclears, hentry, a, ha, hkept, ?_, herror⟩
        · intro hdiffer
          exact hab (Option.some.inj (ha.symm.trans (hdiffer.attribute?_of_mem hb)))
        · cases creating with
          | true => rfl
          | false => exact absurd hkept hvalid
        · intro hkind
          exact hsuits (.inr (.inr ((Value.kind_nullValue _).trans hkind.symm)))
      · rw [if_neg haccepts] at hfault
        cases hfault

/-- The errand with a new title may be created as well as changed. -/
theorem check_record_errand :
    errandClassifier.record retitled (.upsert, some (.numbered 3)) = .ok retitledErrand ∧
      ∀ creating, errand.check creating retitledErrand = .ok () := by
  have hr : errandClassifier.record retitled (.upsert, some (.numbered 3)) =
      .ok retitledErrand := rfl
  have hdiffer : errand.NamesDiffer := by decide
  have htitle : errand.attribute? "Title" = some (.ofType "Title" .string) := rfl
  have hweight : errand.attribute? "weight" = some (.ofType "weight" .integer) := rfl
  refine ⟨hr, fun creating => ?_⟩
  rcases check_record hr creating with hok | ⟨entry, hentry, a, ha, hinvalid, -⟩ | ⟨hsame, -⟩
  · exact hok
  · -- both attributes may be written at any time
    have hvalid : a.validFor creating = true := by
      rcases List.mem_cons.1 hentry with rfl | hentry
      · cases htitle.symm.trans ha
        cases creating <;> rfl
      · obtain rfl := List.mem_singleton.1 hentry
        cases hweight.symm.trans ha
        cases creating <;> rfl
    rw [hvalid] at hinvalid
    cases hinvalid
  · exact absurd hdiffer hsame

/-- A thing has a rank that stays, and another one of the same name but for a capital letter. -/
def thing : Entity :=
  ((Entity.ofName "thing").declare
    { Attribute.ofType "rank" .integer with validForUpdate := false }).declare
      (.ofType "Rank" .string)

/-- Things are created where they are missing, and written with all columns. -/
def thingClassifier : Classifier :=
  ⟨thing, { WriteOptions.standard with upsert := true, updateAllColumns := true }⟩

/-- Nothing but an identity. -/
def anonymous : Input :=
  ⟨.ofList [("Id", .typed (.uuid (some (.numbered 1))))]⟩

/-- The second rank is cleared, but its name finds the first one, of which the null is no value. -/
theorem check_record_thing :
    ∃ r, thingClassifier.record anonymous (.upsert, some (.numbered 1)) = .ok r ∧
      thing.check true r =
        .error (thing.misfit { Attribute.ofType "rank" .integer with validForUpdate := false }
          "Rank" (.text none)) ∧
      ¬(thing.check true r = .ok () ∨
        ∃ entry ∈ r.attributes.entries, ∃ a, thing.attribute? entry.1 = some a ∧
          a.validFor true = false ∧ thing.check true r = .error (thing.unwritable entry.1)) := by
  have hr : thingClassifier.record anonymous (.upsert, some (.numbered 1)) =
      .ok ⟨"thing", some (.numbered 1), .ofList [("Rank", .text none)]⟩ := rfl
  have hcheck : thing.check true
      ⟨"thing", some (.numbered 1), .ofList [("Rank", .text none)]⟩ =
        .error (thing.misfit { Attribute.ofType "rank" .integer with validForUpdate := false }
          "Rank" (.text none)) := rfl
  refine ⟨_, hr, hcheck, ?_⟩
  rintro (hok | ⟨entry, hentry, a, ha, hinvalid, -⟩)
  · cases hcheck.symm.trans hok
  · obtain rfl := List.mem_singleton.1 hentry
    have hfound : thing.attribute? "Rank" =
        some { Attribute.ofType "rank" .integer with validForUpdate := false } := rfl
    cases hfound.symm.trans ha
    cases hinvalid

end Classifier

end RecordService
