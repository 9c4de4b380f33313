import RecordService.Proofs.Query.ReadBack

namespace RecordService

/-!
# Queries are read as they were printed

The XML dialect has texts only, so a query is read back with the texts of its values. A query
that the dialect can tell from others is `Printable`.

* `Query.textual`: the query with the texts of its values.
* `Query.Printable`: what the dialect has no way to write is not in the query.
* `Query.readBack_of_printable`: nothing else is lost of a query that can be printed.
* `Query.wellFormed_toElement`: the element of a query is read as it is.
* `Query.ofElement_toElement`: the query of the element of a query.
* `Query.ofXml_toXml`: the query of the text of a query.
-/

open Element

/-! ### What is read back -/

/-- The text of a value. -/
def Value.textual (v : Value) : Value :=
  .text (some v.xmlText)

/-- A condition with the texts of its values. -/
def Condition.textual (c : Condition) : Condition :=
  { c with values := c.values.map Value.textual }

namespace Criteria

mutual

/-- A group with the texts of its values. -/
def textual : Criteria → Criteria
  | ⟨connective, conditions, filters⟩ =>
    ⟨connective, conditions.map Condition.textual, textualAll filters⟩

/-- Groups with the texts of their values. -/
def textualAll : List Criteria → List Criteria
  | [] => []
  | f :: fs => f.textual :: textualAll fs

end

end Criteria

namespace Link

mutual

/-- A link with the texts of its values. -/
def textual : Link → Link
  | ⟨fromEntity, fromName, toEntity, toName, type, label, criteria, links, columns⟩ =>
    ⟨fromEntity, fromName, toEntity, toName, type, label, criteria.textual, textualAll links,
      columns⟩

/-- Links with the texts of their values. -/
def textualAll : List Link → List Link
  | [] => []
  | l :: ls => l.textual :: textualAll ls

end

end Link

/-- A query with the texts of its values. -/
def Query.textual (q : Query) : Query :=
  { q with criteria := q.criteria.textual, links := Link.textualAll q.links }

/-! ### What can be printed -/

/-- A condition that is read back: the texts of child elements have no white space around them,
and inside a link no owner is written. -/
structure Condition.Printable (inLink : Bool) (c : Condition) : Prop where
  owner : inLink = true → c.owner = none
  trimmed : c.listsValues = true → ∀ v ∈ c.values, Text.trim v.xmlText = v.xmlText

instance (inLink : Bool) (c : Condition) : Decidable (c.Printable inLink) :=
  decidable_of_iff
    ((inLink = true → c.owner = none) ∧
      (c.listsValues = true → ∀ v ∈ c.values, Text.trim v.xmlText = v.xmlText))
    ⟨fun h => ⟨h.1, h.2⟩, fun h => ⟨h.owner, h.trimmed⟩⟩

/-- A group that is read back: no group in it is empty. -/
inductive Criteria.Printable (inLink : Bool) : Criteria → Prop where
  | group {connective : Connective} {conditions : List Condition} {filters : List Criteria}
      (hconditions : ∀ c ∈ conditions, c.Printable inLink)
      (hnonempty : ∀ f ∈ filters, f.isEmpty = false)
      (hfilters : ∀ f ∈ filters, Printable inLink f) :
      Printable inLink ⟨connective, conditions, filters⟩

/-- A link that is read back below a parent: it starts from there. -/
inductive Link.Printable : String → Link → Prop where
  | link {fromEntity fromName toEntity toName : String} {type : JoinType} {label : Option String}
      {criteria : Criteria} {links : List Link} {columns : List String}
      (hcriteria : criteria.Printable true)
      (hempty : criteria.isEmpty = true → criteria = .always)
      (hlinks : ∀ l ∈ links, Printable (label.getD toEntity) l) :
      Printable fromEntity
        ⟨fromEntity, fromName, toEntity, toName, type, label, criteria, links, columns⟩

/-- A query that is read back. Its numbers have 32 bits, as numbers of queries do. -/
structure Query.Printable (q : Query) : Prop where
  columns : q.columns ≠ .only []
  criteria : q.criteria.Printable false
  empty : q.criteria.isEmpty = true → q.criteria = .always
  links : ∀ l ∈ q.links, l.Printable q.entity
  top : ∀ n, q.top = some n → n < 2 ^ 32
  page : ∀ p, q.page = some p → p.count < 2 ^ 32 ∧ p.number < 2 ^ 32

/-- A printable query has a page and a limit that are read back as the numbers they are. -/
theorem Query.Printable.inRange {q : Query} (h : q.Printable) : q.InRange :=
  ⟨h.top, h.page⟩

/-! ### Nothing but the texts of values is read back -/

/-- Criteria in a list become textual one by one. -/
theorem Criteria.textualAll_eq (fs : List Criteria) :
    Criteria.textualAll fs = fs.map Criteria.textual := by
  induction fs with
  | nil => rw [textualAll, List.map_nil]
  | cons f fs ih => rw [textualAll, ih, List.map_cons]

/-- Links in a list become textual one by one. -/
theorem Link.textualAll_eq (ls : List Link) : Link.textualAll ls = ls.map Link.textual := by
  induction ls with
  | nil => rw [textualAll, List.map_nil]
  | cons l ls ih => rw [textualAll, ih, List.map_cons]

/-- A printable condition is read back with its values as text, and is otherwise the same. -/
theorem Condition.readBack_of_printable {inLink : Bool} {c : Condition} (h : c.Printable inLink) :
    c.readBack inLink = c.textual := by
  have howner : (if inLink then none else c.owner) = c.owner := by
    split
    · rename_i hin
      exact (h.owner hin).symm
    · rfl
  have hvalues : (c.values.map fun v =>
      Value.text (some (if c.listsValues then Text.trim v.xmlText else v.xmlText))) =
      c.values.map Value.textual := by
    refine List.map_congr_left fun v hv => ?_
    split
    · rename_i hlists
      rw [h.trimmed hlists v hv, Value.textual]
    · rfl
  rw [readBack, howner, hvalues, textual]

/-- Groups that are not empty are all read back. -/
theorem Criteria.readBackAll_of_nonempty {inLink : Bool} {fs : List Criteria}
    (h : ∀ f ∈ fs, f.isEmpty = false) :
    Criteria.readBackAll inLink fs = fs.map (·.readBack inLink) := by
  induction fs with
  | nil => rw [readBackAll, List.map_nil]
  | cons f fs ih =>
    rw [readBackAll, h f List.mem_cons_self, if_neg Bool.false_ne_true,
      ih fun g hg => h g (List.mem_cons_of_mem _ hg), List.map_cons]

/-- Printable criteria are read back with their values as text, group by group. -/
theorem Criteria.readBack_of_printable {inLink : Bool} {f : Criteria} (h : f.Printable inLink) :
    f.readBack inLink = f.textual := by
  induction h with
  | @group connective conditions filters hconditions hnonempty hfilters ih =>
    rw [readBack, textual, textualAll_eq, readBackAll_of_nonempty hnonempty,
      List.map_congr_left ih,
      List.map_congr_left fun c hc => Condition.readBack_of_printable (hconditions c hc)]

/-- Criteria are read back into a place that has none. -/
theorem Criteria.always_andAlso_readBack {inLink : Bool} {f : Criteria} (h : f.Printable inLink)
    (hempty : f.isEmpty = true → f = .always) :
    Criteria.always.andAlso (f.readBack inLink) = f.textual := by
  cases hf : f.isEmpty with
  | true =>
    rw [andAlso_of_isEmpty (isEmpty_readBack hf), hempty hf]
    rfl
  | false =>
    have htextual : f.textual.isEmpty = false := by
      obtain ⟨connective, conditions, filters⟩ := f
      rw [textual, textualAll_eq]
      simpa [isEmpty] using hf
    rw [readBack_of_printable h, always_andAlso htextual]

/-- Links in a list are read back one by one. -/
theorem Link.readBackAll_eq (parent : String) (ls : List Link) :
    Link.readBackAll parent ls = ls.map (·.readBack parent) := by
  induction ls with
  | nil => rw [readBackAll, List.map_nil]
  | cons l ls ih => rw [readBackAll, ih, List.map_cons]

/-- A printable link is read back with the values of its criteria as text, at every depth. -/
theorem Link.readBack_of_printable {parent : String} {l : Link} (h : l.Printable parent) :
    l.readBack parent = l.textual := by
  induction h with
  | @link fromEntity fromName toEntity toName type label criteria links columns hcriteria hempty
      hlinks ih =>
    rw [readBack, textual, Criteria.always_andAlso_readBack hcriteria hempty, readBackAll_eq,
      textualAll_eq, List.map_congr_left ih]

/-- **Queries that can be printed.** The query is read back with the texts of its values. -/
theorem Query.readBack_of_printable {q : Query} (h : q.Printable) : q.readBack = q.textual := by
  have hcolumns : q.columns.readBack = q.columns := by
    match hq : q.columns with
    | .all => rfl
    | .only [] => exact absurd hq h.columns
    | .only (name :: names) => rfl
  have hlinks : Link.readBackAll q.entity q.links = Link.textualAll q.links := by
    rw [Link.readBackAll_eq, Link.textualAll_eq]
    exact List.map_congr_left fun l hl => Link.readBack_of_printable (h.links l hl)
  rw [readBack, textual, hcolumns, hlinks, Criteria.always_andAlso_readBack h.criteria h.empty]

/-! ### No white space is lost -/

/-- A printable condition loses nothing when the white space around its texts is dropped. -/
theorem Condition.trimmed_of_printable {inLink : Bool} {c : Condition} (h : c.Printable inLink) :
    (c.toElement inLink).trimmed = c.toElement inLink := by
  have hvalues : c.listsValues = true →
      (c.values.map fun v => (⟨"value", [], [], Text.trim v.xmlText⟩ : Element)) =
        c.values.map fun v => ⟨"value", [], [], v.xmlText⟩ :=
    fun hlists => List.map_congr_left fun v hv => by rw [h.trimmed hlists v hv]
  rw [trimmed_toElement, toElement_eq]
  cases hlists : c.listsValues with
  | true => simp only [if_true, hvalues hlists]
  | false => rfl

/-- The elements of several groups are those of each. -/
theorem Criteria.elementsOf_eq (inLink : Bool) (fs : List Criteria) :
    Criteria.elementsOf inLink fs = fs.flatMap (·.toElements inLink) := by
  induction fs with
  | nil => rw [elementsOf, List.flatMap_nil]
  | cons f fs ih => rw [elementsOf, ih, List.flatMap_cons]

/-- Printable criteria lose nothing when white space is dropped, as none of their conditions
does. -/
theorem Criteria.trimmed_of_printable {inLink : Bool} {f : Criteria} (h : f.Printable inLink) :
    (f.toElements inLink).map trimmed = f.toElements inLink := by
  induction h with
  | @group connective conditions filters hconditions hnonempty hfilters ih =>
    have hconditions' : (conditions.map (·.toElement inLink)).map trimmed =
        conditions.map (·.toElement inLink) := by
      rw [List.map_map]
      exact List.map_congr_left fun c hc => Condition.trimmed_of_printable (hconditions c hc)
    rw [toElements]
    split
    · rfl
    · rw [List.map_singleton, trimmed_group, List.map_append, hconditions', elementsOf_eq,
        List.map_flatMap, List.flatMap_congr ih]

/-- A printable link loses nothing when white space is dropped, at every depth of links. -/
theorem Link.trimmed_of_printable {parent : String} {l : Link} (h : l.Printable parent) :
    l.toElement.trimmed = l.toElement := by
  induction h with
  | @link fromEntity fromName toEntity toName type label criteria links columns hcriteria hempty
      hlinks ih =>
    have hbelow : (links.map toElement).map trimmed = links.map toElement := by
      rw [List.map_map]
      exact List.map_congr_left ih
    rw [toElement, trimmed_group, List.map_append, List.map_append, trimmed_columns,
      Criteria.trimmed_of_printable hcriteria, elementsOf_eq, hbelow]

namespace Query

/-- The element of a printable query loses nothing when white space is dropped, so it is read as it
was written. -/
theorem trimmed_of_printable {q : Query} (h : q.Printable) : q.toElement.trimmed = q.toElement := by
  have hlinks : (Link.elementsOf q.links).map trimmed = Link.elementsOf q.links := by
    rw [Link.elementsOf_eq, List.map_map]
    exact List.map_congr_left fun l hl => Link.trimmed_of_printable (h.links l hl)
  rw [trimmed_toElement, trimmed_entityChildren, Criteria.trimmed_of_printable h.criteria, hlinks,
    ← List.append_assoc, ← List.append_assoc]
  rfl

/-- The element of a query that can be printed is read as it is. -/
theorem wellFormed_toElement {q : Query} (h : q.Printable) : q.toElement.WellFormed :=
  q.hasText_toElement.wellFormed (trimmed_of_printable h)

/-- **Elements of queries.** A query is read from its element with the texts of its values. -/
theorem ofElement_toElement {q : Query} (h : q.Printable) :
    ofElement q.toElement = .ok q.textual := by
  have hread := ofElement_trimmed h.inRange
  rwa [trimmed_of_printable h, readBack_of_printable h] at hread

/-- **Round trip.** A query that can be printed is read from its text, on one line or indented,
with the texts of its values. -/
theorem ofXml_toXml {q : Query} (h : q.Printable) :
    ofXml q.toXml = .ok q.textual ∧ ofXml q.toIndentedXml = .ok q.textual := by
  have hformed := wellFormed_toElement h
  constructor
  · rw [ofXml, toXml, ofText_print hformed, Answer.ok_bind, ofElement_toElement h]
  · rw [ofXml, toIndentedXml, ofText_printIndented hformed, Answer.ok_bind, ofElement_toElement h]

/-- A query with a link, a group inside a group and texts that are markup themselves. -/
def quoting : Query :=
  { ofEntity "account" with
    columns := .only ["name", "a \"b\""]
    criteria :=
      ⟨.and, [⟨some "c", "name", .equal, [.text (some " <value> ")]⟩],
        [⟨.or, [⟨none, "name", .isIn, [.text (some "A&B"), .text (some "it's"), .text none]⟩], []⟩]⟩
    links :=
      [⟨"account", "id", "contact", "parent", .leftOuter, some "c",
        ⟨.or, [⟨none, "age", .notIn, [.int32 (some 1)]⟩], []⟩, [], ["age"]⟩]
    orders := [⟨"name", .descending⟩]
    top := some 7
    page := some ⟨50, 2, some "<cookie/>"⟩
    wantsTotal := true }

/-- Quotation marks, angle brackets and ampersands come through, in values as in names. -/
theorem ofXml_toXml_quoting :
    ofXml quoting.toXml = .ok quoting.textual ∧
      ofXml quoting.toIndentedXml = .ok quoting.textual := by
  have hgroup : Criteria.Printable false
      ⟨.or, [⟨none, "name", .isIn, [.text (some "A&B"), .text (some "it's"), .text none]⟩], []⟩ :=
    .group (by decide +kernel) nofun nofun
  have hlink : Criteria.Printable true ⟨.or, [⟨none, "age", .notIn, [.int32 (some 1)]⟩], []⟩ :=
    .group (by decide +kernel) nofun nofun
  refine ofXml_toXml ⟨nofun, .group (by decide +kernel) ?_ ?_, nofun, ?_, ?_, ?_⟩
  · decide
  · intro f hf
    rw [List.mem_singleton.1 hf]
    exact hgroup
  · intro l hl
    rw [List.mem_singleton.1 hl]
    exact .link hlink nofun nofun
  · rintro n ⟨⟩
    decide
  · rintro p ⟨⟩
    decide

end Query

end RecordService

