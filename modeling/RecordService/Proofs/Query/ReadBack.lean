import RecordService.Proofs.Markup.RoundTrip
import RecordService.Proofs.Text.Numeral
import RecordService.Query.Markup

namespace RecordService

/-!
# What is read back of a query

Any query has a text, and its text is read back. What is read is the query itself but for what the
dialect has no way to write: values are texts, conditions of links have no owner, groups in a group
are left out if they are empty, no columns are all columns, and links start where they hang.

* `Query.readBack`: what is read back.
* `Query.hasText_toElement`: the element of a query has a text.
* `Query.ofElement_trimmed`: the query of the element of a query.
* `Query.ofXml_toXml_of_inRange`: the query of the text of a query.
-/

open Element

/-! ### What is read back -/

/-- Whether the values of a condition stand in child elements. -/
def Condition.listsValues (c : Condition) : Bool :=
  c.operator.isMembership || c.values.length != 1

/-- What is read back of a condition: the texts of its values, without the white space around those
in child elements, and no owner inside a link. -/
def Condition.readBack (inLink : Bool) (c : Condition) : Condition :=
  { c with
    owner := if inLink then none else c.owner
    values := c.values.map fun v =>
      .text (some (if c.listsValues then Text.trim v.xmlText else v.xmlText)) }

namespace Criteria

mutual

/-- What is read back of a group that is not empty. -/
def readBack (inLink : Bool) : Criteria → Criteria
  | ⟨connective, conditions, filters⟩ =>
    ⟨connective, conditions.map (·.readBack inLink), readBackAll inLink filters⟩

/-- What is read back of the groups in a group. -/
def readBackAll (inLink : Bool) : List Criteria → List Criteria
  | [] => []
  | f :: fs =>
    if f.isEmpty then readBackAll inLink fs else f.readBack inLink :: readBackAll inLink fs

end

end Criteria

namespace Link

mutual

/-- What is read back of a link below its parent. -/
def readBack (parent : String) : Link → Link
  | ⟨_, fromName, toEntity, toName, type, label, criteria, links, columns⟩ =>
    ⟨parent, fromName, toEntity, toName, type, label,
      Criteria.always.andAlso (criteria.readBack true), readBackAll (label.getD toEntity) links,
      columns⟩

/-- What is read back of the links below a parent. -/
def readBackAll (parent : String) : List Link → List Link
  | [] => []
  | l :: ls => l.readBack parent :: readBackAll parent ls

end

end Link

/-- What is read back of a set of columns. -/
def ColumnSet.readBack : ColumnSet → ColumnSet
  | only [] => all
  | columns => columns

namespace Query

/-- What is read back of a query. -/
def readBack (q : Query) : Query :=
  { q with
    columns := q.columns.readBack
    criteria := Criteria.always.andAlso (q.criteria.readBack false)
    links := Link.readBackAll q.entity q.links }

/-- The numbers of a query have 32 bits. -/
structure InRange (q : Query) : Prop where
  top : ∀ n, q.top = some n → n < 2 ^ 32
  page : ∀ p, q.page = some p → p.count < 2 ^ 32 ∧ p.number < 2 ^ 32

end Query

/-! ### The elements have texts -/

/-- The names of elements and attributes. -/
def dialectNames : List String :=
  ["fetch", "entity", "all-attributes", "attribute", "order", "filter", "condition", "value",
   "link-entity", "entityname", "operator", "type", "name", "from", "to", "link-type", "alias",
   "descending", "top", "count", "page", "paging-cookie", "returntotalrecordcount"]

/-- Every name of the dialect can stand in a text as the name of an element or an attribute. -/
theorem isName_dialect : ∀ name ∈ dialectNames, IsName name := by
  decide +kernel

/-- Attributes with names of the dialect. -/
def InDialect (as : List (String × String)) : Prop :=
  ∀ a ∈ as, a.1 ∈ dialectNames

/-- Attributes of the dialect have names that can stand in a text. -/
theorem InDialect.isName {as : List (String × String)} (h : InDialect as) :
    ∀ a ∈ as, IsName a.1 :=
  fun a ha => isName_dialect _ (h a ha)

theorem inDialect_nil : InDialect [] :=
  fun _ ha => nomatch ha

/-- An attribute of the dialect in front of others keeps them in the dialect. -/
theorem inDialect_cons {key value : String} {as : List (String × String)}
    (hkey : key ∈ dialectNames) (has : InDialect as) : InDialect ((key, value) :: as) := by
  intro a ha
  rcases List.mem_cons.1 ha with rfl | ha
  · exact hkey
  · exact has a ha

/-- Two lists of attributes of the dialect, one after the other, are in the dialect. -/
theorem inDialect_append {as bs : List (String × String)} (has : InDialect as)
    (hbs : InDialect bs) : InDialect (as ++ bs) := by
  intro a ha
  rcases List.mem_append.1 ha with ha | ha
  · exact has a ha
  · exact hbs a ha

/-- An attribute that may be missing is in the dialect if its name is. -/
theorem inDialect_attributeIf {key : String} (hkey : key ∈ dialectNames) (value : Option String) :
    InDialect (attributeIf key value) := by
  cases value with
  | none => exact inDialect_nil
  | some value => exact inDialect_cons hkey inDialect_nil

/-- An element of attributes alone has a text. -/
theorem hasText_leaf {name : String} {as : List (String × String)} (hname : name ∈ dialectNames)
    (has : InDialect as) (hgroup : holdsText name = false) : (Element.leaf name as).HasText :=
  .group (isName_dialect name hname) has.isName hgroup nofun

/-- The element of a condition, its values in attributes or in child elements. -/
theorem Condition.toElement_eq (inLink : Bool) (c : Condition) :
    c.toElement inLink =
      ⟨"condition",
        attributeIf "entityname" (if inLink then none else c.owner) ++
          [("attribute", c.name), ("operator", c.operator.xmlName)] ++
          (if c.listsValues then [] else c.values.map fun v => ("value", v.xmlText)),
        if c.listsValues then c.values.map fun v => ⟨"value", [], [], v.xmlText⟩ else [], ""⟩ := by
  have howner : (if inLink then [] else attributeIf "entityname" c.owner) =
      attributeIf "entityname" (if inLink then none else c.owner) := by
    cases inLink <;> rfl
  obtain ⟨owner, name, operator, values⟩ := c
  unfold toElement listsValues
  dsimp only at howner ⊢
  rw [howner]
  -- a single value is written as an attribute, unless the operator takes a list
  match values with
  | [] => simp
  | [v] => cases hmember : operator.isMembership <;> simp [Element.leaf]
  | v :: w :: values => simp

/-- A condition has a text, whatever its values and its owner are. -/
theorem Condition.hasText_toElement (inLink : Bool) (c : Condition) :
    (c.toElement inLink).HasText := by
  rw [toElement_eq]
  refine .group (isName_dialect _ (by decide)) (InDialect.isName ?_) (by decide) ?_
  · refine inDialect_append (inDialect_append (inDialect_attributeIf (by decide) _) ?_) ?_
    · exact inDialect_cons (by decide) (inDialect_cons (by decide) inDialect_nil)
    · split
      · exact inDialect_nil
      · intro a ha
        obtain ⟨v, -, rfl⟩ := List.mem_map.1 ha
        exact (by decide : "value" ∈ dialectNames)
  · intro e he
    split at he
    · obtain ⟨v, -, rfl⟩ := List.mem_map.1 he
      exact .text (isName_dialect _ (by decide)) nofun (by decide)
    · cases he

/-- All elements that a group is written as are filters. -/
theorem Criteria.name_of_mem_toElements {inLink : Bool} {f : Criteria} {e : Element}
    (h : e ∈ f.toElements inLink) : e.name = "filter" := by
  obtain ⟨connective, conditions, filters⟩ := f
  rw [toElements] at h
  split at h
  · exact nomatch h
  · rw [List.mem_singleton.1 h]

mutual

/-- What a group is written as has a text. -/
theorem Criteria.hasText_toElements (inLink : Bool) (f : Criteria) :
    ∀ e ∈ f.toElements inLink, e.HasText := by
  match f with
  | ⟨connective, conditions, filters⟩ =>
    rw [toElements]
    split
    · exact nofun
    · intro e he
      rw [List.mem_singleton.1 he]
      refine .group (isName_dialect _ (by decide)) ?_ (by decide) ?_
      · exact (inDialect_cons (by decide) inDialect_nil).isName
      · intro e he
        rcases List.mem_append.1 he with he | he
        · obtain ⟨c, -, rfl⟩ := List.mem_map.1 he
          exact c.hasText_toElement inLink
        · exact hasText_elementsOf inLink filters e he

/-- What the groups in a group are written as has a text. -/
theorem Criteria.hasText_elementsOf (inLink : Bool) (fs : List Criteria) :
    ∀ e ∈ Criteria.elementsOf inLink fs, e.HasText := by
  match fs with
  | [] => exact nofun
  | f :: fs =>
    intro e he
    rw [elementsOf] at he
    rcases List.mem_append.1 he with he | he
    · exact f.hasText_toElements inLink e he
    · exact hasText_elementsOf inLink fs e he

end

/-- The element of a column has a text. -/
theorem hasText_columnElement (name : String) : (columnElement name).HasText :=
  hasText_leaf (by decide) (inDialect_cons (by decide) inDialect_nil) (by decide)

/-- Links are written one by one, in their order. -/
theorem Link.elementsOf_eq (ls : List Link) : Link.elementsOf ls = ls.map Link.toElement := by
  induction ls with
  | nil => rw [elementsOf, List.map_nil]
  | cons l ls ih => rw [elementsOf, ih, List.map_cons]

/-- A link is written as an element of its own kind, which tells it from columns, orders and
filters. -/
theorem Link.name_toElement (l : Link) : l.toElement.name = "link-entity" := by
  cases l
  rw [toElement]

mutual

/-- A link has a text, with all links below it. -/
theorem Link.hasText_toElement (l : Link) : l.toElement.HasText := by
  match l with
  | ⟨fromEntity, fromName, toEntity, toName, type, label, criteria, links, columns⟩ =>
    rw [toElement]
    refine .group (isName_dialect _ (by decide)) (InDialect.isName ?_) (by decide) ?_
    · refine inDialect_append ?_ (inDialect_attributeIf (by decide) _)
      exact inDialect_cons (by decide) (inDialect_cons (by decide) (inDialect_cons (by decide)
        (inDialect_cons (by decide) inDialect_nil)))
    · intro e he
      rcases List.mem_append.1 he with he | he
      · rcases List.mem_append.1 he with he | he
        · obtain ⟨name, -, rfl⟩ := List.mem_map.1 he
          exact hasText_columnElement name
        · exact criteria.hasText_toElements true e he
      · exact hasText_elementsOf links e he

/-- What some links are written as has a text. -/
theorem Link.hasText_elementsOf (ls : List Link) :
    ∀ e ∈ Link.elementsOf ls, e.HasText := by
  match ls with
  | [] => exact nofun
  | l :: ls =>
    intro e he
    rw [elementsOf] at he
    rcases List.mem_cons.1 he with rfl | he
    · exact l.hasText_toElement
    · exact hasText_elementsOf ls e he

end

/-- The element of an order has a text. -/
theorem SortKey.hasText_toElement (k : SortKey) : k.toElement.HasText := by
  refine hasText_leaf (by decide) (inDialect_cons (by decide) ?_) (by decide)
  cases k.direction with
  | ascending => exact inDialect_nil
  | descending => exact inDialect_cons (by decide) inDialect_nil

/-- The elements of a set of columns have texts. -/
theorem ColumnSet.hasText_toElements (s : ColumnSet) : ∀ e ∈ s.toElements, e.HasText := by
  cases s with
  | all =>
    intro e he
    rw [List.mem_singleton.1 he]
    exact hasText_leaf (by decide) inDialect_nil (by decide)
  | only names =>
    intro e he
    obtain ⟨name, -, rfl⟩ := List.mem_map.1 he
    exact hasText_columnElement name

/-- All attributes of the root of a query are in the dialect. -/
theorem Query.inDialect_rootAttributes (q : Query) : InDialect q.rootAttributes := by
  refine inDialect_append (inDialect_append (inDialect_attributeIf (by decide) _) ?_) ?_
  · cases q.page with
    | none => exact inDialect_nil
    | some page =>
      refine inDialect_append ?_ (inDialect_attributeIf (by decide) _)
      exact inDialect_cons (by decide) (inDialect_cons (by decide) inDialect_nil)
  · cases q.wantsTotal with
    | false => exact inDialect_nil
    | true => exact inDialect_cons (by decide) inDialect_nil

/-- The element of a query has a text. -/
theorem Query.hasText_toElement (q : Query) : q.toElement.HasText := by
  refine .group (isName_dialect _ (by decide)) q.inDialect_rootAttributes.isName (by decide) ?_
  intro e he
  rw [List.mem_singleton.1 he]
  refine .group (isName_dialect _ (by decide)) ?_ (by decide) ?_
  · exact (inDialect_cons (by decide) inDialect_nil).isName
  · intro e he
    rcases List.mem_append.1 he with he | he
    · rcases List.mem_append.1 he with he | he
      · rcases List.mem_append.1 he with he | he
        · exact q.columns.hasText_toElements e he
        · obtain ⟨k, -, rfl⟩ := List.mem_map.1 he
          exact k.hasText_toElement
      · exact q.criteria.hasText_toElements false e he
    · exact Link.hasText_elementsOf q.links e he

/-! ### Conditions are read back -/

@[simp] theorem Element.attribute?_nil (name : String) (children : List Element)
    (text key : String) : (⟨name, [], children, text⟩ : Element).attribute? key = none := rfl

/-- The first attribute of an element counts. -/
theorem Element.attribute?_cons (name k value : String) (as : List (String × String))
    (children : List Element) (text key : String) :
    (⟨name, (k, value) :: as, children, text⟩ : Element).attribute? key =
      if Text.eqIgnoreCase k key then some value
      else (⟨name, as, children, text⟩ : Element).attribute? key := by
  unfold attribute?
  rw [List.find?_cons]
  cases Text.eqIgnoreCase k key <;> rfl

/-- An attribute that may be missing is what is read of it, if none comes after it. -/
theorem Element.attribute?_attributeIf (name k : String) (value : Option String)
    (as : List (String × String)) (children : List Element) (text key : String) :
    (⟨name, attributeIf k value ++ as, children, text⟩ : Element).attribute? key =
      if Text.eqIgnoreCase k key then
        value.or ((⟨name, as, children, text⟩ : Element).attribute? key)
      else (⟨name, as, children, text⟩ : Element).attribute? key := by
  cases value with
  | none => cases Text.eqIgnoreCase k key <;> rfl
  | some value => exact attribute?_cons name k value as children text key

/-- If an element has no more than one attribute, which may be missing, reading it gives back what
it was made from. -/
theorem Element.attribute?_attributeIf_alone (name k : String) (value : Option String)
    (children : List Element) (text key : String) :
    (⟨name, attributeIf k value, children, text⟩ : Element).attribute? key =
      if Text.eqIgnoreCase k key then value else none := by
  have h := attribute?_attributeIf name k value [] children text key
  rw [List.append_nil, attribute?_nil, Option.or_none] at h
  exact h

/-- Every operator is read back from its name. -/
theorem Operator.ofText_xmlName (o : Operator) : Operator.ofText o.xmlName = .ok o := by
  cases o <;> rfl

/-- The element of a condition without the white space around its listed values. -/
theorem Condition.trimmed_toElement (inLink : Bool) (c : Condition) :
    (c.toElement inLink).trimmed =
      ⟨"condition",
        attributeIf "entityname" (if inLink then none else c.owner) ++
          [("attribute", c.name), ("operator", c.operator.xmlName)] ++
          (if c.listsValues then [] else c.values.map fun v => ("value", v.xmlText)),
        if c.listsValues then c.values.map fun v => ⟨"value", [], [], Text.trim v.xmlText⟩ else [],
        ""⟩ := by
  rw [toElement_eq, trimmed_group]
  cases c.listsValues with
  | true =>
    rw [if_pos rfl, if_pos rfl, List.map_map]
    rfl
  | false => rfl

/-- **Conditions.** A condition is read back from its element. -/
theorem Condition.ofElement_trimmed (inLink : Bool) (c : Condition) :
    Condition.ofElement (c.toElement inLink).trimmed = .ok (c.readBack inLink) := by
  rw [trimmed_toElement]
  cases hlists : c.listsValues with
  | true =>
    have hlisted : (((c.values.map fun v =>
          (⟨"value", [], [], Text.trim v.xmlText⟩ : Element)).filter (·.name == "value")).map
            (·.text)).map (fun s => Value.text (some s)) = (c.readBack inLink).values := by
      rw [List.filter_eq_self.2 (by simp), List.map_map, List.map_map, readBack, hlists]
      rfl
    simp only [if_true, List.append_nil]
    unfold Condition.ofElement required
    simp +decide only [attribute?_attributeIf, attribute?_cons, attribute?_nil, if_true, if_false,
      Answer.ok_bind, Operator.ofText_xmlName, Option.or_none, Option.toList_none,
      List.nil_append, hlisted]
    rfl
  | false =>
    obtain ⟨v, hv⟩ : ∃ v, c.values = [v] := by
      simp only [listsValues, Bool.or_eq_false_iff, bne_eq_false_iff_eq] at hlists
      exact List.length_eq_one_iff.1 hlists.2
    simp only [Bool.false_eq_true, if_false, hv, List.map_cons, List.map_nil, List.append_assoc,
      List.cons_append, List.nil_append]
    unfold Condition.ofElement required
    simp +decide only [attribute?_attributeIf, attribute?_cons, attribute?_nil, if_true, if_false,
      Answer.ok_bind, Operator.ofText_xmlName, Option.or_none, Option.toList_some,
      List.filter_nil, List.map_nil, List.append_nil, List.map_cons]
    rw [readBack, hv, hlists]
    rfl

/-! ### Groups are read back -/

/-- The connective of a group is read back from the type of its filter. -/
theorem Connective.ofElement_name (connective : Connective) (children : List Element) :
    Connective.ofElement ⟨"filter", [("type", connective.name)], children, ""⟩ =
      .ok connective := by
  cases connective <;> rfl

/-- An empty group has no element. -/
theorem Criteria.toElements_of_isEmpty {inLink : Bool} {f : Criteria} (h : f.isEmpty = true) :
    f.toElements inLink = [] := by
  obtain ⟨connective, conditions, filters⟩ := f
  rw [toElements]
  exact if_pos h

/-- The conditions of a group are added to it in order. -/
theorem Criteria.ofChildren_conditions (inLink : Bool) (conditions : List Condition)
    (f : Criteria) (es : List Element) :
    Criteria.ofChildren f (conditions.map (fun c => (c.toElement inLink).trimmed) ++ es) =
      Criteria.ofChildren
        { f with conditions := f.conditions ++ conditions.map (·.readBack inLink) } es := by
  induction conditions generalizing f with
  | nil =>
    cases f
    rw [List.map_nil, List.nil_append, List.map_nil, List.append_nil]
  | cons c conditions ih =>
    have hname : (c.toElement inLink).trimmed.name = "condition" := by
      rw [Condition.trimmed_toElement]
    rw [List.map_cons, List.cons_append, ofChildren, if_pos hname, Condition.ofElement_trimmed,
      Answer.ok_bind, ih]
    simp

mutual

/-- **Groups.** A group that is not empty has one element, from which it is read back. -/
theorem Criteria.ofElement_toElements (inLink : Bool) (f : Criteria) (hf : f.isEmpty = false) :
    ∃ e, (f.toElements inLink).map trimmed = [e] ∧ e.name = "filter" ∧
      Criteria.ofElement e = .ok (f.readBack inLink) := by
  match f with
  | ⟨connective, conditions, filters⟩ =>
    have hsome : ¬(conditions.isEmpty && filters.isEmpty) = true := by
      simpa [isEmpty] using hf
    rw [toElements, if_neg hsome, List.map_singleton, trimmed_group, List.map_append, List.map_map]
    refine ⟨_, rfl, rfl, ?_⟩
    rw [Criteria.ofElement, Connective.ofElement_name, Answer.ok_bind]
    show Criteria.ofChildren _ (conditions.map (fun c => (c.toElement inLink).trimmed) ++ _) = _
    rw [ofChildren_conditions, ofChildren_elementsOf inLink filters, readBack]
    rfl

/-- The groups in a group are added to it in order, those that are not empty. -/
theorem Criteria.ofChildren_elementsOf (inLink : Bool) (fs : List Criteria) (g : Criteria) :
    Criteria.ofChildren g ((Criteria.elementsOf inLink fs).map trimmed) =
      .ok { g with filters := g.filters ++ Criteria.readBackAll inLink fs } := by
  match fs with
  | [] =>
    cases g
    rw [elementsOf, List.map_nil, ofChildren, readBackAll, List.append_nil]
  | f :: fs =>
    rw [elementsOf, List.map_append, readBackAll]
    cases hf : f.isEmpty with
    | true =>
      rw [toElements_of_isEmpty hf, List.map_nil, List.nil_append, if_pos rfl,
        ofChildren_elementsOf inLink fs]
    | false =>
      obtain ⟨e, he, hname, hread⟩ := ofElement_toElements inLink f hf
      rw [he, List.singleton_append, ofChildren, if_neg (by rw [hname]; decide), if_pos hname,
        hread, Answer.ok_bind, ofChildren_elementsOf inLink fs, if_neg Bool.false_ne_true]
      simp

end

/-- An empty group is its connective, and nothing else. -/
theorem Criteria.eq_of_isEmpty {f : Criteria} (hf : f.isEmpty = true) :
    f = ⟨f.connective, [], []⟩ := by
  obtain ⟨connective, conditions, filters⟩ := f
  obtain ⟨hconditions, hfilters⟩ := Bool.and_eq_true_iff.1 hf
  cases List.isEmpty_iff.1 hconditions
  cases List.isEmpty_iff.1 hfilters
  rfl

/-- Nothing is read back of an empty group. -/
theorem Criteria.isEmpty_readBack {inLink : Bool} {f : Criteria} (hf : f.isEmpty = true) :
    (f.readBack inLink).isEmpty = true := by
  rw [eq_of_isEmpty hf, readBack, readBackAll]
  rfl

/-- Empty criteria add nothing. -/
theorem Criteria.andAlso_of_isEmpty {g : Criteria} (hg : g.isEmpty = true) (f : Criteria) :
    f.andAlso g = f :=
  if_pos hg

/-- Criteria are added to a place that has none. -/
theorem Criteria.always_andAlso {f : Criteria} (hf : f.isEmpty = false) : always.andAlso f = f := by
  rw [andAlso, if_neg (by simp [hf])]
  rfl

/-! ### Links are read back -/

/-- Every type of a join is read back from its name. -/
theorem JoinType.ofText_xmlName (t : JoinType) : JoinType.ofText t.xmlName = .ok t := by
  cases t <;> rfl

/-- The attributes of a link are read back. -/
theorem Link.headOfElement_toElement (fromEntity fromName toEntity toName : String)
    (type : JoinType) (label : Option String) (children : List Element) :
    Link.headOfElement fromEntity
        ⟨"link-entity", [("name", toEntity), ("from", toName), ("to", fromName),
          ("link-type", type.xmlName)] ++ attributeIf "alias" label, children, ""⟩ =
      .ok ⟨fromEntity, fromName, toEntity, toName, type, label, .always, [], []⟩ := by
  unfold headOfElement required
  simp +decide only [List.cons_append, List.nil_append, attribute?_cons, if_true, if_false,
    Answer.ok_bind, JoinType.ofText_xmlName, attribute?_attributeIf_alone]
  rfl

/-- Columns have no texts that could be trimmed. -/
theorem trimmed_columns (names : List String) :
    (names.map columnElement).map trimmed = names.map columnElement := by
  rw [List.map_map]
  exact List.map_congr_left fun name _ => trimmed_group "attribute" [("name", name)] []

/-- The columns of a link are added to it in order. -/
theorem Link.ofChildren_columns (columns : List String) (l : Link) (es : List Element) :
    Link.ofChildren l (columns.map columnElement ++ es) =
      Link.ofChildren { l with columns := l.columns ++ columns } es := by
  induction columns generalizing l with
  | nil =>
    cases l
    rw [List.map_nil, List.nil_append, List.append_nil]
  | cons column columns ih =>
    have hrequired : (columnElement column).required "name" = .ok column := by
      simp +decide only [columnElement, leaf, required, attribute?_cons, if_true]
    have hname : (columnElement column).name = "attribute" := rfl
    rw [List.map_cons, List.cons_append, ofChildren, if_pos hname, hrequired, Answer.ok_bind, ih]
    simp

/-- The criteria of a link are added to it. -/
theorem Link.ofChildren_criteria (criteria : Criteria) (l : Link) (es : List Element) :
    Link.ofChildren l ((criteria.toElements true).map trimmed ++ es) =
      Link.ofChildren { l with criteria := l.criteria.andAlso (criteria.readBack true) } es := by
  cases hf : criteria.isEmpty with
  | true =>
    cases l
    rw [Criteria.toElements_of_isEmpty hf, List.map_nil, List.nil_append,
      Criteria.andAlso_of_isEmpty (Criteria.isEmpty_readBack hf)]
  | false =>
    obtain ⟨e, he, hname, hread⟩ := Criteria.ofElement_toElements true criteria hf
    rw [he, List.singleton_append, ofChildren, if_neg (by rw [hname]; decide),
      if_neg (by rw [hname]; decide), if_pos hname, hread, Answer.ok_bind]

mutual

/-- **Links.** A link is read back below its parent. -/
theorem Link.ofElement_trimmed (parent : String) (l : Link) :
    Link.ofElement parent l.toElement.trimmed = .ok (l.readBack parent) := by
  match l with
  | ⟨fromEntity, fromName, toEntity, toName, type, label, criteria, links, columns⟩ =>
    rw [toElement, trimmed_group, List.map_append, List.map_append, trimmed_columns, ofElement,
      headOfElement_toElement, Answer.ok_bind, List.append_assoc, ofChildren_columns,
      ofChildren_criteria, ofChildren_elementsOf links, readBack]
    rfl

/-- The links of a link are added to it in order. They start from the name that it goes by. -/
theorem Link.ofChildren_elementsOf (ls : List Link) (k : Link) :
    Link.ofChildren k ((Link.elementsOf ls).map trimmed) =
      .ok { k with links := k.links ++ Link.readBackAll k.referenceName ls } := by
  match ls with
  | [] =>
    cases k
    rw [elementsOf, List.map_nil, ofChildren, readBackAll, List.append_nil]
  | l :: ls =>
    have hname : l.toElement.trimmed.name = "link-entity" :=
      (name_trimmed _).trans l.name_toElement
    rw [elementsOf, List.map_cons, ofChildren, if_neg (by rw [hname]; decide),
      if_neg (by rw [hname]; decide), if_neg (by rw [hname]; decide), if_pos hname,
      ofElement_trimmed k.referenceName l, Answer.ok_bind, ofChildren_elementsOf ls, readBackAll]
    simp [referenceName]

end

/-! ### Queries are read back -/

/-- A number is read back from its digits. -/
theorem Element.number?_natText {e : Element} {key : String} {value : Option Nat}
    (h : e.attribute? key = value.map natText) (hvalue : ∀ n, value = some n → n < 2 ^ 32) :
    e.number? key = .ok value := by
  unfold number?
  rw [h]
  cases value with
  | none => rfl
  | some n =>
    have hn : n ≤ 2 ^ 32 - 1 := Nat.le_sub_one_of_lt (hvalue n rfl)
    have hdigits : ∀ c ∈ (natText n).toList, Text.isBlank c = false := by
      intro c hc
      rw [natText, String.toList_ofList] at hc
      exact Text.isBlank_of_isDigit (Nat.isDigit_of_mem_toDigits (by decide) (Nat.le_refl 10) hc)
    have hread : Text.readNat32 (Text.trim (natText n)) = .ok n := by
      rw [Text.trim_of_forall hdigits, Text.readNat32, natText, String.toList_ofList,
        Text.readNatural_toDigits hn]
    simp only [Option.map_some, hread]

namespace Query

/-- The attributes of the root element are read back. -/
theorem attribute?_root (q : Query) (children : List Element) :
    (⟨"fetch", q.rootAttributes, children, ""⟩ : Element).attribute? "top" = q.top.map natText ∧
      (⟨"fetch", q.rootAttributes, children, ""⟩ : Element).attribute? "count" =
        (q.page.map (·.count)).map natText ∧
      (⟨"fetch", q.rootAttributes, children, ""⟩ : Element).attribute? "page" =
        (q.page.map (·.number)).map natText ∧
      (⟨"fetch", q.rootAttributes, children, ""⟩ : Element).attribute? "paging-cookie" =
        q.page.bind (·.cookie) ∧
      (⟨"fetch", q.rootAttributes, children, ""⟩ : Element).flag "returntotalrecordcount" =
        q.wantsTotal := by
  unfold rootAttributes Page.toAttributes flag
  cases q.page with
  | none =>
    cases q.wantsTotal <;>
      simp +decide [attribute?_attributeIf, attribute?_attributeIf_alone, attribute?_cons]
  | some page =>
    cases q.wantsTotal <;>
      simp +decide [attribute?_attributeIf, attribute?_attributeIf_alone, attribute?_cons]

/-- The columns of a query are added to it in order, the first taking the place of all. -/
theorem ofChildren_columns (names : List String) (q : Query) (es : List Element) :
    ofChildren q (names.map columnElement ++ es) = ofChildren (names.foldl addColumn q) es := by
  induction names generalizing q with
  | nil => rfl
  | cons name names ih =>
    have hrequired : (columnElement name).required "name" = .ok name := by
      simp +decide only [columnElement, leaf, required, attribute?_cons, if_true]
    have hname : (columnElement name).name = "attribute" := rfl
    rw [List.map_cons, List.cons_append, ofChildren, if_pos hname, hrequired, Answer.ok_bind, ih,
      List.foldl_cons]

/-- Columns are read into a query in their order, after those that are there already. -/
theorem foldl_addColumn (names : List String) (q : Query) (before : List String)
    (hq : q.columns = .only before) :
    names.foldl addColumn q = { q with columns := .only (before ++ names) } := by
  induction names generalizing q before with
  | nil =>
    rw [List.foldl_nil, List.append_nil, ← hq]
  | cons name names ih =>
    have hone : q.addColumn name = { q with columns := .only (before ++ [name]) } := by
      rw [addColumn, hq]
    rw [List.foldl_cons, hone, ih _ _ rfl]
    simp

/-- A set of columns is read back into a query for all columns. -/
theorem ofChildren_columnSet (columns : ColumnSet) (q : Query) (hq : q.columns = .all)
    (es : List Element) :
    ofChildren q (columns.toElements ++ es) =
      ofChildren { q with columns := columns.readBack } es := by
  have hsame : { q with columns := .all } = q := by rw [← hq]
  match columns with
  | .all =>
    have hname : (leaf "all-attributes" []).name = "all-attributes" := rfl
    rw [ColumnSet.toElements, List.singleton_append, ofChildren, if_neg (by rw [hname]; decide),
      if_pos hname]
    show ofChildren q es = ofChildren { q with columns := .all } es
    rw [hsame]
  | .only [] =>
    show ofChildren q es = ofChildren { q with columns := .all } es
    rw [hsame]
  | .only (name :: names) =>
    -- the first column takes the place of all, the others are added to it
    have hone : q.addColumn name = { q with columns := .only [name] } := by
      rw [addColumn, hq]
    rw [ColumnSet.toElements, ofChildren_columns, List.foldl_cons, hone,
      foldl_addColumn names _ [name] rfl]
    rfl

/-- An order is read back from its element. -/
theorem ofElement_sortKey (k : SortKey) : SortKey.ofElement k.toElement = .ok k := by
  obtain ⟨name, direction⟩ := k
  unfold SortKey.ofElement SortKey.toElement required flag
  cases direction with
  | ascending => simp +decide [attribute?_cons, leaf]
  | descending => simp +decide [attribute?_cons, leaf]

/-- The sort keys of a query are added to it in order. -/
theorem ofChildren_orders (orders : List SortKey) (q : Query) (es : List Element) :
    ofChildren q (orders.map SortKey.toElement ++ es) =
      ofChildren { q with orders := q.orders ++ orders } es := by
  induction orders generalizing q with
  | nil =>
    rw [List.map_nil, List.nil_append, List.append_nil]
  | cons k orders ih =>
    have hname : k.toElement.name = "order" := rfl
    rw [List.map_cons, List.cons_append, ofChildren, if_neg (by rw [hname]; decide),
      if_neg (by rw [hname]; decide), if_pos hname, ofElement_sortKey, Answer.ok_bind, ih]
    simp

/-- The criteria of a query are added to it. -/
theorem ofChildren_criteria (criteria : Criteria) (q : Query) (es : List Element) :
    ofChildren q ((criteria.toElements false).map trimmed ++ es) =
      ofChildren { q with criteria := q.criteria.andAlso (criteria.readBack false) } es := by
  cases hf : criteria.isEmpty with
  | true =>
    rw [Criteria.toElements_of_isEmpty hf, List.map_nil, List.nil_append,
      Criteria.andAlso_of_isEmpty (Criteria.isEmpty_readBack hf)]
  | false =>
    obtain ⟨e, he, hname, hread⟩ := Criteria.ofElement_toElements false criteria hf
    rw [he, List.singleton_append, ofChildren, if_neg (by rw [hname]; decide),
      if_neg (by rw [hname]; decide), if_neg (by rw [hname]; decide), if_pos hname, hread,
      Answer.ok_bind]

/-- The links of a query are added to it in order. -/
theorem ofChildren_links (links : List Link) (q : Query) :
    ofChildren q ((Link.elementsOf links).map trimmed) =
      .ok { q with links := q.links ++ Link.readBackAll q.entity links } := by
  induction links generalizing q with
  | nil => rw [Link.elementsOf, List.map_nil, ofChildren, Link.readBackAll, List.append_nil]
  | cons l links ih =>
    have hname : l.toElement.trimmed.name = "link-entity" :=
      (name_trimmed _).trans l.name_toElement
    rw [Link.elementsOf, List.map_cons, ofChildren, if_neg (by rw [hname]; decide),
      if_neg (by rw [hname]; decide), if_neg (by rw [hname]; decide),
      if_neg (by rw [hname]; decide), if_pos hname, Link.ofElement_trimmed, Answer.ok_bind, ih,
      Link.readBackAll]
    simp

/-- The children of the element of the entity. -/
def entityChildren (q : Query) : List Element :=
  q.columns.toElements ++ q.orders.map SortKey.toElement ++ q.criteria.toElements false ++
    Link.elementsOf q.links

/-- Columns and sort keys have no texts that could be trimmed. -/
theorem trimmed_entityChildren (q : Query) :
    q.entityChildren.map trimmed =
      q.columns.toElements ++ (q.orders.map SortKey.toElement ++
        ((q.criteria.toElements false).map trimmed ++ (Link.elementsOf q.links).map trimmed)) := by
  have hcolumns : q.columns.toElements.map trimmed = q.columns.toElements := by
    cases q.columns with
    | all => rfl
    | only names => exact trimmed_columns names
  have horders : (q.orders.map SortKey.toElement).map trimmed = q.orders.map SortKey.toElement := by
    rw [List.map_map]
    exact List.map_congr_left fun k _ => trimmed_group "order" _ []
  rw [entityChildren, List.map_append, List.map_append, List.map_append, hcolumns, horders,
    List.append_assoc, List.append_assoc]

/-- The element of a query without the white space around its texts. -/
theorem trimmed_toElement (q : Query) :
    q.toElement.trimmed =
      ⟨"fetch", q.rootAttributes,
        [⟨"entity", [("name", q.entity)], q.entityChildren.map trimmed, ""⟩], ""⟩ := by
  rw [toElement, trimmed_group, List.map_singleton, trimmed_group]
  rfl

/-- The children of the element of the entity are read back. -/
theorem ofChildren_entity (q : Query) :
    ofChildren
        { ofEntity q.entity with top := q.top, page := q.page, wantsTotal := q.wantsTotal }
        (q.entityChildren.map trimmed) = .ok q.readBack := by
  rw [trimmed_entityChildren, ofChildren_columnSet _ _ rfl, ofChildren_orders,
    ofChildren_criteria, ofChildren_links]
  rfl

/-- Only a query for all columns has an element that says so. -/
theorem columns_of_any {q : Query}
    (h : (q.entityChildren.map trimmed).any (·.name == "all-attributes") = true) :
    q.columns = .all := by
  rw [List.any_map] at h
  obtain ⟨e, he, hname⟩ := List.any_eq_true.1 h
  rw [Function.comp_apply, name_trimmed] at hname
  rw [entityChildren, Link.elementsOf_eq] at he
  rcases List.mem_append.1 he with he | he
  · rcases List.mem_append.1 he with he | he
    · rcases List.mem_append.1 he with he | he
      · cases hcolumns : q.columns with
        | all => rfl
        | only names =>
          rw [hcolumns] at he
          obtain ⟨name, -, rfl⟩ := List.mem_map.1 he
          exact absurd hname (by decide : ¬("attribute" == "all-attributes") = true)
      · obtain ⟨k, -, rfl⟩ := List.mem_map.1 he
        exact absurd hname (by decide : ¬("order" == "all-attributes") = true)
    · rw [Criteria.name_of_mem_toElements he] at hname
      exact absurd hname (by decide)
  · obtain ⟨l, -, rfl⟩ := List.mem_map.1 he
    rw [Link.name_toElement] at hname
    exact absurd hname (by decide)

/-- The page is read back from the root if its numbers have 32 bits, also where there is none. -/
theorem pageOfElement_root {q : Query} (h : q.InRange) (children : List Element) :
    pageOfElement ⟨"fetch", q.rootAttributes, children, ""⟩ = .ok q.page := by
  obtain ⟨-, hcount, hnumber, hcookie, -⟩ := attribute?_root q children
  have hcount' := number?_natText hcount (by
    intro n hn
    obtain ⟨p, hp, rfl⟩ := Option.map_eq_some_iff.1 hn
    exact (h.page p hp).1)
  have hnumber' := number?_natText hnumber (by
    intro n hn
    obtain ⟨p, hp, rfl⟩ := Option.map_eq_some_iff.1 hn
    exact (h.page p hp).2)
  unfold pageOfElement
  rw [hcount', Answer.ok_bind]
  cases hpage : q.page with
  | none => rfl
  | some page =>
    rw [hpage] at hnumber' hcookie
    simp only [Option.map_some, hnumber', Answer.ok_bind, hcookie, Option.bind_some]
    rfl

/-- **Elements of queries.** A query is read back from its element. -/
theorem ofElement_trimmed {q : Query} (h : q.InRange) :
    ofElement q.toElement.trimmed = .ok q.readBack := by
  obtain ⟨htop, -, -, -, htotal⟩ := attribute?_root q
    [⟨"entity", [("name", q.entity)], q.entityChildren.map trimmed, ""⟩]
  have hentity : (⟨"entity", [("name", q.entity)], q.entityChildren.map trimmed, ""⟩ :
      Element).required "name" = .ok q.entity := by
    simp +decide only [required, attribute?_cons, if_true]
  have hfilter : ∀ e : Element, e.name = "entity" → [e].filter (·.name == "entity") = [e] :=
    fun e he => by simp [he]
  rw [trimmed_toElement]
  unfold ofElement
  simp only [ne_eq, not_true_eq_false, if_false, hfilter, hentity, Answer.ok_bind,
    number?_natText htop h.top, pageOfElement_root h, htotal]
  rw [ofChildren_entity, Answer.ok_bind]
  -- the reader asks for all columns once more when an element says so, which changes nothing
  split
  · rename_i hany
    rw [readBack, columns_of_any hany]
    rfl
  · rfl

/-- **What is read back.** Any query is read back from its text, on one line or indented. -/
theorem ofXml_toXml_of_inRange {q : Query} (h : q.InRange) :
    ofXml q.toXml = .ok q.readBack ∧ ofXml q.toIndentedXml = .ok q.readBack := by
  have hread := ofElement_trimmed h
  constructor
  · rw [ofXml, toXml, print, ofText_chars q.hasText_toElement, Answer.ok_bind, hread]
  · rw [ofXml, toIndentedXml, printIndented, ofText_chars q.hasText_toElement, Answer.ok_bind,
      hread]

end Query

end RecordService
