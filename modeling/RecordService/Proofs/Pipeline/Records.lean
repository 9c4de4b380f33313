import RecordService.Proofs.Pipeline.Protection
import Mathlib.Data.List.Forall2

namespace RecordService

/-!
# What the record of a request holds

The record of a request has the attributes that its input names, with the values that are made of
the input's, and where all columns are updated it has nulls for the attributes that are missing.
Names may come in any spelling and more than once; the record has each attribute once, under its
declared name.

* `Entity.NamesDiffer`: names that differ in more than the case of letters, so that every attribute
  is found by its own name.
* `Classifier.kept`, `Classifier.Converts`: the entries of an input that are written, and as what.
* `Classifier.setValues_spec`: either all of them are set, or one is refused.
* `Classifier.clear`, `Classifier.record_eq`: a record is made of what is set and then of what is
  cleared.
* `Classifier.entriesNamed_foldl_clear`, `Classifier.mem_foldl_clear`: which attributes are cleared.
* `Classifier.record_contents`: everything that a record holds.
-/

/-! ### Dictionaries -/

/-- What is related member by member has a counterpart of every member. -/
theorem exists_of_forall₂ {α β : Type} {R : α → β → Prop} {xs : List α} {ys : List β}
    (h : List.Forall₂ R xs ys) {x : α} (hx : x ∈ xs) : ∃ y ∈ ys, R x y := by
  induction h with
  | nil => cases hx
  | cons hfirst hrest ih =>
    rcases List.mem_cons.1 hx with rfl | hx
    · exact ⟨_, List.mem_cons_self, hfirst⟩
    · obtain ⟨y, hy, hxy⟩ := ih hx
      exact ⟨y, List.mem_cons_of_mem _ hy, hxy⟩

namespace Dict

variable {α : Type}

/-- The names in a dictionary are those that have a value. -/
theorem mem_names_iff {d : Dict α} {name : String} : name ∈ d.names ↔ (d.get? name).isSome := by
  rw [Option.isSome_iff_exists]
  constructor
  · intro h
    obtain ⟨⟨name, value⟩, hentry, rfl⟩ := List.mem_map.1 h
    exact ⟨value, get?_of_mem hentry⟩
  · rintro ⟨value, hvalue⟩
    exact List.mem_map_of_mem (mem_entries_of_get? hvalue)

/-- An entry that was there before the insertions, or is one of those that were inserted. -/
theorem mem_insertAll {d : Dict α} {entries : List (String × α)} {entry : String × α}
    (h : entry ∈ (d.insertAll entries).entries) : entry ∈ d.entries ∨ entry ∈ entries := by
  induction entries generalizing d with
  | nil => exact .inl h
  | cons first entries ih =>
    rcases ih h with hold | hin
    · rcases mem_put hold with rfl | hold
      · exact .inr List.mem_cons_self
      · exact .inl hold
    · exact .inr (List.mem_cons_of_mem _ hin)

/-- A name has at most one entry. -/
theorem filter_name (d : Dict α) (name : String) :
    d.entries.filter (fun entry => entry.1 == name) =
      ((d.get? name).map fun value => (name, value)).toList := by
  obtain ⟨entries, hnodup⟩ := d
  show _ = ((entries.lookup name).map fun value => (name, value)).toList
  dsimp only
  induction entries with
  | nil => rfl
  | cons entry entries ih =>
    rw [List.map_cons, List.nodup_cons] at hnodup
    rw [lookup_cons_eq]
    by_cases h : entry.1 = name
    · -- no entry behind the first one has its name
      have hrest : entries.filter (fun entry => entry.1 == name) = [] := by
        rw [List.filter_eq_nil_iff]
        intro other hother hname
        exact hnodup.1 (h ▸ beq_iff_eq.1 hname ▸ List.mem_map_of_mem hother)
      subst h
      simp [hrest]
    · simp [h, Ne.symm h, ih hnodup.2]

end Dict

/-! ### Names of attributes -/

namespace Entity

variable {e : Entity} {a : Attribute}

/-- Whether the names of all attributes differ in more than the case of letters. -/
def NamesDiffer (e : Entity) : Prop :=
  e.attributes.Pairwise fun a b => Text.eqIgnoreCase a.name b.name = false

instance (e : Entity) : Decidable e.NamesDiffer :=
  inferInstanceAs (Decidable (e.attributes.Pairwise _))

/-- An attribute that is found by its name is one of the entity. -/
theorem mem_of_attribute? {name : String} (h : e.attribute? name = some a) : a ∈ e.attributes :=
  List.mem_of_find?_eq_some h

/-- Every attribute is found by its own name. -/
theorem NamesDiffer.attribute?_of_mem (h : e.NamesDiffer) (ha : a ∈ e.attributes) :
    e.attribute? a.name = some a := by
  unfold NamesDiffer at h
  unfold attribute?
  revert h ha
  induction e.attributes with
  | nil => simp
  | cons b attributes ih =>
    intro h ha
    rw [List.pairwise_cons] at h
    rcases List.mem_cons.1 ha with rfl | ha
    · simp
    · rw [List.find?_cons_of_neg (by simp [h.1 a ha])]
      exact ih h.2 ha

end Entity

namespace Record

/-- A record has no value of a name if it has no entry for any spelling of it. -/
theorem isNone_get? (r : Record) (name : String) :
    (r.get? name).isNone = (r.entriesNamed name).isEmpty := by
  have hfound : r.get? name =
      (r.attributes.get? name).or ((r.entriesNamed name).head?.map Prod.snd) := by
    rw [entriesNamed, List.head?_filter]
    cases h : r.attributes.get? name with
    | some v => simp [get?, Dict.getIgnoreCase?, h]
    | none => simp [get?, Dict.getIgnoreCase?, h, Dict.find?]
  rw [hfound]
  cases hentries : r.entriesNamed name with
  | cons entry entries => cases r.attributes.get? name <;> rfl
  | nil =>
    cases h : r.attributes.get? name with
    | none => rfl
    | some v =>
      have hmem : (name, v) ∈ r.entriesNamed name :=
        List.mem_filter.2 ⟨Dict.mem_entries_of_get? h, Text.eqIgnoreCase_self name⟩
      rw [hentries] at hmem
      cases hmem

/-- Entries are found under every spelling of their name. -/
theorem entriesNamed_congr (r : Record) {m n : String} (h : Text.eqIgnoreCase m n = true) :
    r.entriesNamed m = r.entriesNamed n := by
  have hfold := Text.eqIgnoreCase_iff.1 h
  simp only [entriesNamed, Text.eqIgnoreCase, hfold]

/-- An attribute that is set changes no value of another name. -/
theorem entriesNamed_set {n name : String} (r : Record) (v : Value)
    (h : Text.eqIgnoreCase n name = false) :
    (r.set n v).entriesNamed name = r.entriesNamed name :=
  Dict.filter_insert (p := (Text.eqIgnoreCase · name)) v h

/-- A name without any value gets the one that is set. -/
theorem entriesNamed_set_self {r : Record} {name : String} (v : Value)
    (h : r.entriesNamed name = []) : (r.set name v).entriesNamed name = [(name, v)] := by
  show (Dict.put name v r.attributes.entries).filter _ = _
  unfold entriesNamed at h
  revert h
  induction r.attributes.entries with
  | nil => simp [Dict.put]
  | cons entry entries ih =>
    intro h
    rw [List.filter_eq_nil_iff, List.forall_mem_cons, ← List.filter_eq_nil_iff] at h
    have hne : entry.1 ≠ name := by
      intro heq
      exact h.1 (heq ▸ Text.eqIgnoreCase_self name)
    rw [Dict.put, if_neg hne, List.filter_cons, if_neg h.1]
    exact ih h.2

/-- If all names of a record are declared, a declared name has at most one entry in all its
spellings. -/
theorem entriesNamed_of_declared {e : Entity} (he : e.NamesDiffer) {r : Record}
    (hr : ∀ name ∈ r.attributes.names, ∃ a ∈ e.attributes, a.name = name) {a : Attribute}
    (ha : a ∈ e.attributes) :
    r.entriesNamed a.name = ((r.attributes.get? a.name).map fun v => (a.name, v)).toList := by
  rw [← Dict.filter_name]
  refine List.filter_congr fun entry hentry => ?_
  obtain ⟨b, hb, hname⟩ := hr entry.1 (List.mem_map_of_mem hentry)
  rw [Bool.eq_iff_iff, beq_iff_eq, ← hname]
  constructor
  · intro hsame
    -- both attributes are found by the same name
    have hfound := Entity.attribute?_congr (e := e) hsame
    rw [he.attribute?_of_mem hb, he.attribute?_of_mem ha] at hfound
    rw [Option.some.inj hfound]
  · intro hsame
    rw [hsame, Text.eqIgnoreCase_self]

end Record

namespace Classifier

variable {c : Classifier} {operation : Operation} {i : Input} {a : Attribute} {r r' : Record}
  {entries : List (String × InputValue)}

/-! ### Names that are left alone -/

/-- The names that an operation leaves alone: that of the identity, and those that the options take
out. -/
def spared (c : Classifier) (operation : Operation) : List String :=
  c.entity.primaryId :: c.options.ignored ++
    (if operation = .create then [] else c.options.createOnlyNames)

/-- The entries of an input that an operation writes: all but the identity, the entity and what the
operation leaves alone. -/
def kept (c : Classifier) (operation : Operation) (i : Input) : List (String × InputValue) :=
  i.values.entries.filter fun entry =>
    !isNameIn (idKey :: entityKey :: c.spared operation) entry.1

/-- Whether an operation clears an attribute that is missing. -/
def clearsMissing (c : Classifier) (operation : Operation) (a : Attribute) : Bool :=
  operation != .create && c.options.updateAllColumns && a.validForUpdate &&
    !isNameIn (c.spared operation) a.name

/-- What is spared: the primary identity, what is ignored and, but for a new record, what is only
for new ones. -/
theorem isNameIn_spared (c : Classifier) (operation : Operation) (name : String) :
    isNameIn (c.spared operation) name =
      (c.entity.isPrimaryId name || c.options.isIgnored name ||
        (operation != .create && c.options.isCreateOnly name)) := by
  by_cases h : operation = .create
  · simp [isNameIn, spared, Entity.isPrimaryId, WriteOptions.isIgnored, h]
  · have hne : (operation != .create) = true := bne_iff_ne.2 h
    simp [isNameIn, spared, Entity.isPrimaryId, WriteOptions.isIgnored,
      WriteOptions.isCreateOnly, h, hne, Bool.or_assoc]

/-- What is skipped: what is spared, and the keys that name the record and its entity. -/
theorem skips_eq (c : Classifier) (operation : Operation) (name : String) :
    c.skips operation name = isNameIn (idKey :: entityKey :: c.spared operation) name := by
  have hcons : isNameIn (idKey :: entityKey :: c.spared operation) name =
      (Text.eqIgnoreCase idKey name ||
        (Text.eqIgnoreCase entityKey name || isNameIn (c.spared operation) name)) := rfl
  rw [hcons, isNameIn_spared, skips, Text.eqIgnoreCase_comm name, Text.eqIgnoreCase_comm name]
  simp only [Bool.or_assoc]

/-! ### Values that are set -/

/-- What an entry is written as: the value that its attribute makes of it, under the declared
name. -/
def Converts (c : Classifier) (entry : String × InputValue) (written : String × Value) : Prop :=
  ∃ a, c.entity.attribute? entry.1 = some a ∧ a.coerce entry.2 = .ok written.2 ∧
    written.1 = a.name

/-- Why an entry cannot be written: its attribute is not declared, or makes nothing of it. -/
def Refuses (c : Classifier) (entry : String × InputValue) (e : Failure) : Prop :=
  (c.entity.attribute? entry.1 = none ∧
      e = .of (.unknownAttribute c.entity.name entry.1)) ∨
    ∃ a, c.entity.attribute? entry.1 = some a ∧ a.coerce entry.2 = .error e

/-- An entry that is written is not refused. -/
theorem Converts.not_refuses {entry : String × InputValue} {written : String × Value}
    (h : c.Converts entry written) {e : Failure} : ¬c.Refuses entry e := by
  obtain ⟨a, ha, hv, -⟩ := h
  rintro (⟨hnone, -⟩ | ⟨b, hb, he⟩)
  · rw [ha] at hnone
    cases hnone
  · rw [ha] at hb
    cases hb
    rw [hv] at he
    cases he

/-- An entry that is skipped changes nothing in the record. -/
theorem setValues_cons_of_skips {entry : String × InputValue}
    (h : c.skips operation entry.1 = true) (entries : List (String × InputValue)) (r : Record) :
    c.setValues operation (entry :: entries) r = c.setValues operation entries r := by
  rw [setValues, if_pos h]

/-- An entry that is written is set, unless it is refused. -/
theorem setValues_cons {entry : String × InputValue} (h : c.skips operation entry.1 = false)
    (entries : List (String × InputValue)) (r : Record) :
    (∃ e, c.Refuses entry e ∧ c.setValues operation (entry :: entries) r = .error e) ∨
      ∃ written, c.Converts entry written ∧
        c.setValues operation (entry :: entries) r =
          c.setValues operation entries (r.set written.1 written.2) := by
  rw [setValues, if_neg (by simp [h])]
  cases ha : c.entity.attribute? entry.1 with
  | none => exact .inl ⟨_, .inl ⟨ha, rfl⟩, rfl⟩
  | some a =>
    cases hv : a.coerce entry.2 with
    | error e =>
      refine .inl ⟨e, .inr ⟨a, ha, hv⟩, ?_⟩
      dsimp only
      rw [hv]
      rfl
    | ok v =>
      refine .inr ⟨(a.name, v), ⟨a, ha, hv, rfl⟩, ?_⟩
      dsimp only
      rw [hv]
      rfl

/-- Either every entry that is written is set, in order, or one of them is refused. -/
theorem setValues_spec (c : Classifier) (operation : Operation)
    (entries : List (String × InputValue)) (r : Record) :
    (∃ e, c.setValues operation entries r = .error e ∧
      ∃ entry ∈ entries.filter (fun entry => !c.skips operation entry.1), c.Refuses entry e) ∨
    ∃ written,
      List.Forall₂ c.Converts (entries.filter fun entry => !c.skips operation entry.1) written ∧
        c.setValues operation entries r =
          .ok { r with attributes := r.attributes.insertAll written } := by
  induction entries generalizing r with
  | nil => exact .inr ⟨[], .nil, rfl⟩
  | cons entry entries ih =>
    by_cases hskips : c.skips operation entry.1 = true
    · rw [setValues_cons_of_skips hskips, List.filter_cons_of_neg (by simp [hskips])]
      exact ih r
    · rw [Bool.not_eq_true] at hskips
      rw [List.filter_cons_of_pos (by simp [hskips])]
      obtain ⟨e, he, hset⟩ | ⟨written, hwritten, hset⟩ := setValues_cons hskips entries r
      · exact .inl ⟨e, hset, entry, List.mem_cons_self, he⟩
      · rw [hset]
        obtain ⟨e, he, other, hother, hrefused⟩ | ⟨rest, hrest, hok⟩ :=
          ih (r.set written.1 written.2)
        · exact .inl ⟨e, he, other, List.mem_cons_of_mem _ hother, hrefused⟩
        · exact .inr ⟨written :: rest, .cons hwritten hrest, hok⟩

/-! ### Attributes that are cleared -/

/-- Clear an attribute if it is missing and the operation clears it. -/
def clear (c : Classifier) (operation : Operation) (r : Record) (a : Attribute) : Record :=
  if c.clearsMissing operation a && (r.get? a.name).isNone then r.set a.name a.type.emptyValue
  else r

/-- A record is made in two passes: the values of the input are set, and then the attributes are
cleared that are missing. -/
theorem record_eq (c : Classifier) (i : Input) (operation : Operation) (id : Option Uuid) :
    c.record i (operation, id) =
      (c.setValues operation i.values.entries ⟨c.entity.name, id, .empty⟩).map fun r =>
        c.entity.attributes.foldl (c.clear operation) r := by
  unfold record
  show (c.setValues operation i.values.entries ⟨c.entity.name, id, .empty⟩ >>= _) = _
  cases c.setValues operation i.values.entries ⟨c.entity.name, id, .empty⟩ with
  | error e => rfl
  | ok r =>
    refine congrArg Except.ok ?_
    by_cases h : (operation != .create && c.options.updateAllColumns) = true
    · rw [if_pos h, clearMissing]
      congr 1
      funext r a
      have hclears : c.clears r a = (c.clearsMissing operation a && (r.get? a.name).isNone) := by
        rw [Bool.and_eq_true] at h
        simp [clears, clearsMissing, isNameIn_spared, h, Bool.and_assoc]
      rw [hclears, clear]
    · rw [if_neg h]
      have hclear : ∀ r a, c.clear operation r a = r := by
        intro r a
        rw [Bool.not_eq_true] at h
        rw [clear, clearsMissing, h]
        rfl
      exact (List.foldl_fixed' (fun a => hclear r a) _).symm

/-- Clearing leaves the entity and the identity of a record as they are. -/
theorem foldl_clear_frame (attributes : List Attribute) (r : Record) :
    (attributes.foldl (c.clear operation) r).entity = r.entity ∧
      (attributes.foldl (c.clear operation) r).id = r.id := by
  induction attributes generalizing r with
  | nil => exact ⟨rfl, rfl⟩
  | cons a attributes ih =>
    have hclear : (c.clear operation r a).entity = r.entity ∧
        (c.clear operation r a).id = r.id := by
      unfold clear
      split <;> exact ⟨rfl, rfl⟩
    rw [List.foldl_cons, (ih _).1, (ih _).2]
    exact hclear

/-- Clearing an attribute changes no value of another name. -/
theorem entriesNamed_clear_of_ne {name : String} (h : Text.eqIgnoreCase a.name name = false)
    (r : Record) : (c.clear operation r a).entriesNamed name = r.entriesNamed name := by
  unfold clear
  by_cases hclear : (c.clearsMissing operation a && (r.get? a.name).isNone) = true
  · rw [if_pos hclear, Record.entriesNamed_set r _ h]
  · rw [if_neg hclear]

/-- An attribute that has a value in any spelling keeps it. -/
theorem entriesNamed_clear_of_some (h : r.entriesNamed a.name ≠ []) :
    (c.clear operation r a).entriesNamed a.name = r.entriesNamed a.name := by
  have hsome : (r.get? a.name).isNone = false := by
    rw [Record.isNone_get?, List.isEmpty_eq_false_iff]
    exact h
  rw [clear, hsome, Bool.and_false]
  rfl

/-- An attribute without a value gets a null if the operation clears it. -/
theorem entriesNamed_clear_of_none (h : r.entriesNamed a.name = []) :
    (c.clear operation r a).entriesNamed a.name =
      if c.clearsMissing operation a then [(a.name, a.type.emptyValue)] else [] := by
  have hnone : (r.get? a.name).isNone = true := by
    rw [Record.isNone_get?, h]
    rfl
  rw [clear, hnone, Bool.and_true]
  by_cases hclears : c.clearsMissing operation a = true
  · rw [if_pos hclears, if_pos hclears, Record.entriesNamed_set_self _ h]
  · rw [if_neg hclears, if_neg hclears, h]

/-- Clearing attributes of other names leaves the entries of a name. -/
theorem entriesNamed_foldl_clear_of_ne {name : String} {attributes : List Attribute}
    (h : ∀ a ∈ attributes, Text.eqIgnoreCase a.name name = false) (r : Record) :
    (attributes.foldl (c.clear operation) r).entriesNamed name = r.entriesNamed name := by
  induction attributes generalizing r with
  | nil => rfl
  | cons a attributes ih =>
    rw [List.forall_mem_cons] at h
    rw [List.foldl_cons, ih h.2, entriesNamed_clear_of_ne h.1]

/-- Where names differ, every attribute is cleared on its own. -/
theorem entriesNamed_foldl_clear {attributes : List Attribute}
    (h : attributes.Pairwise fun a b => Text.eqIgnoreCase a.name b.name = false)
    (ha : a ∈ attributes) (r : Record) :
    (attributes.foldl (c.clear operation) r).entriesNamed a.name =
      (c.clear operation r a).entriesNamed a.name := by
  induction attributes generalizing r with
  | nil => cases ha
  | cons b attributes ih =>
    rw [List.pairwise_cons] at h
    rw [List.foldl_cons]
    rcases List.mem_cons.1 ha with rfl | ha
    · -- the attributes behind it have other names
      refine entriesNamed_foldl_clear_of_ne (fun b hb => ?_) _
      rw [Text.eqIgnoreCase_comm]
      exact h.1 b hb
    · have hother : (c.clear operation r b).entriesNamed a.name = r.entriesNamed a.name :=
        entriesNamed_clear_of_ne (h.1 a ha) r
      rw [ih h.2 ha]
      by_cases hempty : r.entriesNamed a.name = []
      · rw [entriesNamed_clear_of_none hempty, entriesNamed_clear_of_none (hother.trans hempty)]
      · rw [entriesNamed_clear_of_some hempty, entriesNamed_clear_of_some (hother ▸ hempty), hother]

/-- An attribute that is cleared has a value, and values are not cleared. -/
theorem entriesNamed_clear_ne_nil {name : String}
    (h : r.entriesNamed name ≠ [] ∨
      Text.eqIgnoreCase a.name name = true ∧ c.clearsMissing operation a = true) :
    (c.clear operation r a).entriesNamed name ≠ [] := by
  by_cases hname : Text.eqIgnoreCase a.name name = true
  · rw [← Record.entriesNamed_congr _ hname] at h ⊢
    by_cases hempty : r.entriesNamed a.name = []
    · obtain ⟨-, hclears⟩ := h.resolve_left (not_not_intro hempty)
      rw [entriesNamed_clear_of_none hempty, if_pos hclears]
      exact List.cons_ne_nil _ _
    · rw [entriesNamed_clear_of_some hempty]
      exact hempty
  · have hne := h.resolve_right fun hclears => hname hclears.1
    rw [Bool.not_eq_true] at hname
    rw [entriesNamed_clear_of_ne hname]
    exact hne

/-- The entries of a record whose attribute is cleared. -/
theorem mem_clear {entry : String × Value}
    (h : entry ∈ (c.clear operation r a).attributes.entries) :
    entry ∈ r.attributes.entries ∨
      entry = (a.name, a.type.emptyValue) ∧ c.clearsMissing operation a = true ∧
        r.entriesNamed a.name = [] := by
  unfold clear at h
  by_cases hclear : (c.clearsMissing operation a && (r.get? a.name).isNone) = true
  · rw [if_pos hclear] at h
    rw [Bool.and_eq_true, Record.isNone_get?, List.isEmpty_iff] at hclear
    rcases Dict.mem_put h with hnew | hold
    · exact .inr ⟨hnew, hclear⟩
    · exact .inl hold
  · rw [if_neg hclear] at h
    exact .inl h

/-- An entry that was there before, or the null of an attribute that was cleared. In the latter case
no attribute before it that is cleared has the same name but for the case of letters, as that
attribute would have got a value first. -/
theorem mem_foldl_clear (before : List Attribute) {attributes : List Attribute}
    {entry : String × Value}
    (hbefore : ∀ a ∈ before, c.clearsMissing operation a = true → r.entriesNamed a.name ≠ [])
    (h : entry ∈ (attributes.foldl (c.clear operation) r).attributes.entries) :
    entry ∈ r.attributes.entries ∨
      ∃ b ∈ attributes, entry = (b.name, b.type.emptyValue) ∧ c.clearsMissing operation b = true ∧
        ∀ a, (before ++ attributes).find? (fun a => Text.eqIgnoreCase a.name b.name) = some a →
          a = b ∨ c.clearsMissing operation a = false := by
  induction attributes generalizing before r with
  | nil => exact .inl h
  | cons b attributes ih =>
    have hnext : ∀ a ∈ before ++ [b], c.clearsMissing operation a = true →
        (c.clear operation r b).entriesNamed a.name ≠ [] := by
      intro a ha hclears
      apply entriesNamed_clear_ne_nil
      rcases List.mem_append.1 ha with ha | ha
      · exact .inl (hbefore a ha hclears)
      · rw [List.mem_singleton.1 ha] at hclears ⊢
        exact .inr ⟨Text.eqIgnoreCase_self _, hclears⟩
    rcases ih (before ++ [b]) hnext h with hold | ⟨b', hb', hentry, hclears, hfirst⟩
    · rcases mem_clear hold with hold | ⟨hentry, hclears, hempty⟩
      · exact .inl hold
      · refine .inr ⟨b, List.mem_cons_self, hentry, hclears, fun a ha => ?_⟩
        have hself : (b :: attributes).find? (fun a => Text.eqIgnoreCase a.name b.name) = some b :=
          List.find?_cons_of_pos (by simp)
        rw [List.find?_append, hself] at ha
        cases hfound : before.find? (fun a => Text.eqIgnoreCase a.name b.name) with
        | none =>
          rw [hfound] at ha
          exact .inl (Option.some.inj ha).symm
        | some a' =>
          rw [hfound] at ha
          obtain rfl : a' = a := Option.some.inj ha
          refine .inr (Bool.eq_false_iff.2 fun hclears' => ?_)
          -- the attribute before it has a value, and its name finds that value, too
          apply hbefore a' (List.mem_of_find?_eq_some hfound) hclears'
          rw [Record.entriesNamed_congr r (by simpa using List.find?_some hfound), hempty]
    · rw [List.append_assoc] at hfirst
      exact .inr ⟨b', List.mem_cons_of_mem _ hb', hentry, hclears, hfirst⟩

/-! ### The whole record -/

/-- The value that an input has for an attribute: that of the last entry that is written to it. -/
def given? (c : Classifier) (operation : Operation) (i : Input) (a : Attribute) :
    Option InputValue :=
  ((c.kept operation i).reverse.find? fun entry =>
    c.entity.attribute? entry.1 = some a).map Prod.snd

/-- An input has a value for an attribute exactly if an entry that is kept goes to it. -/
theorem isSome_given? :
    (c.given? operation i a).isSome ↔
      ∃ entry ∈ c.kept operation i, c.entity.attribute? entry.1 = some a := by
  simp [given?, List.find?_isSome]

/-- What is written under the name of an attribute comes first from the first entry that is written
to it. -/
theorem lookup_of_converts {entries : List (String × InputValue)}
    {written : List (String × Value)} (h : List.Forall₂ c.Converts entries written)
    (ha : c.entity.attribute? a.name = some a) :
    match (entries.find? fun entry => c.entity.attribute? entry.1 = some a).map Prod.snd with
    | some x => ∃ v, a.coerce x = .ok v ∧ written.lookup a.name = some v
    | none => written.lookup a.name = none := by
  induction h with
  | nil => rfl
  | @cons entry written entries rest hfirst hrest ih =>
    obtain ⟨b, hb, hv, hname⟩ := hfirst
    by_cases hattribute : c.entity.attribute? entry.1 = some a
    · rw [List.find?_cons_of_pos (by simp [hattribute])]
      obtain rfl : b = a := Option.some.inj (hb.symm.trans hattribute)
      exact ⟨written.2, hv, by rw [Dict.lookup_cons_eq, if_pos hname.symm]⟩
    · rw [List.find?_cons_of_neg (by simp [hattribute])]
      have hne : a.name ≠ written.1 := by
        intro heq
        rw [hname] at heq
        rw [heq, Entity.attribute?_name hb] at ha
        exact hattribute (hb.trans ha)
      rw [Dict.lookup_cons_eq, if_neg hne]
      exact ih

/-- Every value that is set was made of an entry. -/
theorem exists_converts {entries : List (String × InputValue)} {written : List (String × Value)}
    (h : List.Forall₂ c.Converts entries written) {w : String × Value}
    (hw : w ∈ (Dict.empty.insertAll written).entries) : ∃ entry, c.Converts entry w := by
  have hin := (Dict.mem_insertAll hw).resolve_left List.not_mem_nil
  obtain ⟨entry, -, hentry⟩ := exists_of_forall₂ h.flip hin
  exact ⟨entry, hentry⟩

/-- The record of a request is made of what its entries are written as. -/
theorem record_eq_ok {id : Option Uuid} (h : c.record i (operation, id) = .ok r) :
    ∃ written, List.Forall₂ c.Converts (c.kept operation i) written ∧
      r = c.entity.attributes.foldl (c.clear operation)
        ⟨c.entity.name, id, Dict.empty.insertAll written⟩ := by
  rw [record_eq] at h
  obtain ⟨set, hset, rfl⟩ := Answer.map_eq_ok.1 h
  obtain ⟨e, he, -⟩ | ⟨written, hwritten, hok⟩ :=
    c.setValues_spec operation i.values.entries ⟨c.entity.name, id, .empty⟩
  · rw [he] at hset
    cases hset
  · rw [hok] at hset
    cases hset
    simp only [skips_eq] at hwritten
    exact ⟨written, hwritten, rfl⟩

/-- There is no record if an entry is refused, and only then. -/
theorem record_eq_error (c : Classifier) (i : Input) (operation : Operation) (id : Option Uuid) :
    (∃ e, c.record i (operation, id) = .error e) ↔
      ∃ entry ∈ c.kept operation i, ∃ e, c.Refuses entry e := by
  rw [record_eq]
  have hkept : c.kept operation i =
      i.values.entries.filter fun entry => !c.skips operation entry.1 := by
    simp only [skips_eq]
    rfl
  rw [hkept]
  obtain ⟨e, he, hrefused⟩ | ⟨written, hwritten, hok⟩ :=
    c.setValues_spec operation i.values.entries ⟨c.entity.name, id, .empty⟩
  · rw [he]
    obtain ⟨entry, hentry, hrefused⟩ := hrefused
    exact iff_of_true ⟨e, rfl⟩ ⟨entry, hentry, e, hrefused⟩
  · rw [hok]
    refine iff_of_false nofun ?_
    rintro ⟨entry, hentry, e, hrefused⟩
    obtain ⟨w, -, hw⟩ := exists_of_forall₂ hwritten hentry
    exact hw.not_refuses hrefused

/-- All names of a record are declared. -/
theorem declared_of_record {id : Option Uuid} (h : c.record i (operation, id) = .ok r) :
    ∀ name ∈ r.attributes.names, ∃ a ∈ c.entity.attributes, a.name = name := by
  obtain ⟨written, hwritten, rfl⟩ := record_eq_ok h
  intro name hname
  obtain ⟨w, hw, rfl⟩ := List.mem_map.1 hname
  rcases mem_foldl_clear [] nofun hw with hset | ⟨b, hb, rfl, -⟩
  · obtain ⟨entry, a, ha, -, hwname⟩ := exists_converts hwritten hset
    exact ⟨a, Entity.mem_of_attribute? ha, hwname.symm⟩
  · exact ⟨b, hb, rfl⟩

/-- What a record has for an attribute: the value that is made of the input's, or else a null if the
attribute is cleared. -/
theorem entriesNamed_of_record (he : c.entity.NamesDiffer) {id : Option Uuid}
    (h : c.record i (operation, id) = .ok r) (ha : a ∈ c.entity.attributes) :
    match c.given? operation i a with
    | some x => ∃ v, a.coerce x = .ok v ∧ r.entriesNamed a.name = [(a.name, v)]
    | none => r.entriesNamed a.name =
        if c.clearsMissing operation a then [(a.name, a.type.emptyValue)] else [] := by
  obtain ⟨written, hwritten, rfl⟩ := record_eq_ok h
  have hattribute := he.attribute?_of_mem ha
  have hset : (Record.mk c.entity.name id (Dict.empty.insertAll written)).entriesNamed a.name =
      ((written.reverse.lookup a.name).map fun v => (a.name, v)).toList := by
    rw [Record.entriesNamed_of_declared he _ ha]
    · show (((Dict.empty.insertAll written).get? a.name).map _).toList = _
      rw [Dict.get?_insertAll, show (Dict.empty : Dict Value).get? a.name = none from rfl,
        Option.or_none]
    · intro name hname
      obtain ⟨w, hw, rfl⟩ := List.mem_map.1 hname
      obtain ⟨entry, b, hb, -, hwname⟩ := exists_converts hwritten hw
      exact ⟨b, Entity.mem_of_attribute? hb, hwname.symm⟩
  -- the last entry that names the attribute is the first one from behind
  have hlookup := lookup_of_converts (List.forall₂_reverse_iff.2 hwritten) hattribute
  rw [← given?] at hlookup
  rw [entriesNamed_foldl_clear he ha]
  cases hgiven : c.given? operation i a with
  | some x =>
    rw [hgiven] at hlookup
    obtain ⟨v, hv, hfound⟩ := hlookup
    rw [hfound] at hset
    refine ⟨v, hv, ?_⟩
    rw [entriesNamed_clear_of_some (by simp [hset]), hset]
    rfl
  | none =>
    rw [hgiven] at hlookup
    dsimp only at hlookup ⊢
    rw [hlookup] at hset
    rw [entriesNamed_clear_of_none hset]

/-- **The record of a request.** Where the names of attributes differ in more than the case of
letters, there is no record if and only if an entry that is written names no attribute or cannot
become its value. Otherwise the record has the attributes that are named by such entries, and those
that the operation clears; each of them is there once, under its declared name, with the value that
is made of the last entry that names it, or null if there is none. -/
theorem record_contents (he : c.entity.NamesDiffer) (i : Input) (operation : Operation)
    (id : Option Uuid) :
    ((∃ e, c.record i (operation, id) = .error e) ↔
      ∃ entry ∈ c.kept operation i, c.entity.attribute? entry.1 = none ∨
        ∃ a e, c.entity.attribute? entry.1 = some a ∧ a.coerce entry.2 = .error e) ∧
    ∀ r, c.record i (operation, id) = .ok r →
      r.entity = c.entity.name ∧ r.id = id ∧
      (∀ name ∈ r.attributes.names, ∃ a ∈ c.entity.attributes, a.name = name) ∧
      ∀ a ∈ c.entity.attributes,
        (a.name ∈ r.attributes.names ↔
          (∃ entry ∈ c.kept operation i, c.entity.attribute? entry.1 = some a) ∨
            c.clearsMissing operation a = true) ∧
        (a.name ∈ r.attributes.names →
          match c.given? operation i a with
          | some x => ∃ v, a.coerce x = .ok v ∧ r.entriesNamed a.name = [(a.name, v)]
          | none => r.entriesNamed a.name = [(a.name, a.type.emptyValue)]) := by
  constructor
  · rw [record_eq_error]
    constructor
    · rintro ⟨entry, hentry, e, ⟨hnone, -⟩ | ⟨a, ha, hv⟩⟩
      · exact ⟨entry, hentry, .inl hnone⟩
      · exact ⟨entry, hentry, .inr ⟨a, e, ha, hv⟩⟩
    · rintro ⟨entry, hentry, hnone | ⟨a, e, ha, hv⟩⟩
      · exact ⟨entry, hentry, _, .inl ⟨hnone, rfl⟩⟩
      · exact ⟨entry, hentry, e, .inr ⟨a, ha, hv⟩⟩
  · intro r hr
    have hdeclared := declared_of_record hr
    obtain ⟨written, -, hmade⟩ := record_eq_ok hr
    have hentity : r.entity = c.entity.name := by
      rw [hmade, (foldl_clear_frame _ _).1]
    have hid : r.id = id := by
      rw [hmade, (foldl_clear_frame _ _).2]
    refine ⟨hentity, hid, hdeclared, fun a ha => ?_⟩
    have hentries := entriesNamed_of_record he hr ha
    -- an attribute is there exactly if it has entries, and these are known
    have hpresent : a.name ∈ r.attributes.names ↔ r.entriesNamed a.name ≠ [] := by
      rw [Dict.mem_names_iff, Record.entriesNamed_of_declared he hdeclared ha]
      cases r.attributes.get? a.name <;> simp
    rw [hpresent, ← isSome_given?]
    cases hgiven : c.given? operation i a with
    | some x =>
      rw [hgiven] at hentries
      obtain ⟨v, hv, hone⟩ := hentries
      exact ⟨iff_of_true (by simp [hone]) (.inl rfl), fun _ => ⟨v, hv, hone⟩⟩
    | none =>
      rw [hgiven] at hentries
      dsimp only at hentries ⊢
      rw [hentries]
      by_cases hclears : c.clearsMissing operation a = true <;> simp [hclears]

/-- An errand has a title, a weight, a helper, and a topic that stays. -/
def errand : Entity :=
  ((((Entity.ofName "errand").declare (.ofType "Title" .string)).declare
    (.ofType "weight" .integer)).declare (.ofType "helper" .lookup)).declare
      { Attribute.ofType "topic" .memo with validForUpdate := false }

/-- Errands are written with all columns, but their helpers are left alone. -/
def errandClassifier : Classifier :=
  ⟨errand, { WriteOptions.standard with updateAllColumns := true, ignored := ["HELPER"] }⟩

/-- Two titles in different spellings, an identity and a helper, but no weight. -/
def retitled : Input :=
  ⟨.ofList [("TITLE", .loose (.string "draft")), ("id", .loose (.string "none")),
    ("Helper", .loose (.int 4)), ("title", .loose (.int 12))]⟩

/-- The errand with its last title and no weight. -/
def retitledErrand : Record :=
  ⟨"errand", some (.numbered 3), .ofList [("Title", .text (some "12")), ("weight", .int32 none)]⟩

/-- The last title counts, the weight is cleared, and helper and topic are left alone. -/
theorem record_contents_errand :
    errand.NamesDiffer ∧
      errandClassifier.record retitled (.update, some (.numbered 3)) = .ok retitledErrand ∧
      retitledErrand.entriesNamed "Title" = [("Title", .text (some "12"))] ∧
      retitledErrand.entriesNamed "weight" = [("weight", .int32 none)] ∧
      "helper" ∉ retitledErrand.attributes.names ∧
      "topic" ∉ retitledErrand.attributes.names := by
  have he : errand.NamesDiffer := by decide
  obtain ⟨-, hok⟩ :=
    record_contents (c := errandClassifier) he retitled .update (some (.numbered 3))
  have hkept : errandClassifier.kept .update retitled =
      [("TITLE", .loose (.string "draft")), ("title", .loose (.int 12))] := rfl
  have hr : errandClassifier.record retitled (.update, some (.numbered 3)) =
      .ok retitledErrand := rfl
  obtain ⟨-, -, -, hattributes⟩ := hok _ hr
  have htitle := hattributes (.ofType "Title" .string) (by decide)
  have hweight := hattributes (.ofType "weight" .integer) (by decide)
  have hhelper := hattributes (.ofType "helper" .lookup) (by decide)
  have htopic := hattributes { Attribute.ofType "topic" .memo with validForUpdate := false }
    (by decide)
  rw [hkept] at htitle hweight hhelper htopic
  refine ⟨he, hr, ?_, ?_, ?_, ?_⟩
  · obtain ⟨v, hv, hone⟩ := htitle.2 (htitle.1.2 (.inl ⟨_, List.mem_cons_self, rfl⟩))
    cases hv
    exact hone
  · exact hweight.2 (hweight.1.2 (.inr rfl))
  · intro hin
    rcases hhelper.1.1 hin with hgiven | hclears
    · revert hgiven
      decide
    · cases hclears
  · intro hin
    rcases htopic.1.1 hin with hgiven | hclears
    · revert hgiven
      decide
    · cases hclears

end Classifier

end RecordService
