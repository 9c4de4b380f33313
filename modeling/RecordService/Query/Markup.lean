import RecordService.Markup.Reader
import RecordService.Query
import RecordService.Number.Binary64.Shortest

namespace RecordService

/-!
# Queries in XML

The XML dialect of queries: elements for columns, sort keys, filters and links inside the element
of the entity.

* `Query.toElement`: the element of a query; `Query.toXml` and `Query.toIndentedXml` print it.
* `Query.ofElement`: the query of an element; `Query.ofXml` reads it. Values of conditions are
  read as texts.
-/

/-! ### Printing -/

/-- The text of a value in XML. -/
def Value.xmlText : Value → String
  | boolean (some b) => if b then "1" else "0"
  | double (some x) => x.toText Binary64.dataLayout
  | v => if v.isNull then "" else v.toText

/-- The text of a natural number. -/
def natText (n : Nat) : String :=
  String.ofList (Nat.toDigits 10 n)

/-- An attribute that is written only if there is a value. -/
def attributeIf (name : String) : Option String → List (String × String)
  | some value => [(name, value)]
  | none => []

namespace Condition

/-- The element of a condition. Inside a link the owner of the attribute is left out. A list of
values, or a single one of an operator that takes lists, stands in child elements. -/
def toElement (inLink : Bool) (c : Condition) : Element :=
  let owner := if inLink then [] else attributeIf "entityname" c.owner
  let attributes := owner ++ [("attribute", c.name), ("operator", c.operator.xmlName)]
  let listed : Element :=
    ⟨"condition", attributes, c.values.map fun v => ⟨"value", [], [], v.xmlText⟩, ""⟩
  match c.values with
  | [v] =>
    if c.operator.isMembership then listed
    else .leaf "condition" (attributes ++ [("value", v.xmlText)])
  | _ => listed

end Condition

namespace Criteria

mutual

/-- The elements of a group: one, or none for an empty group. -/
def toElements (inLink : Bool) : Criteria → List Element
  | ⟨connective, conditions, filters⟩ =>
    if conditions.isEmpty && filters.isEmpty then []
    else
      [⟨"filter", [("type", connective.name)],
        conditions.map (·.toElement inLink) ++ elementsOf inLink filters, ""⟩]

/-- The elements of some groups. -/
def elementsOf (inLink : Bool) : List Criteria → List Element
  | [] => []
  | f :: fs => toElements inLink f ++ elementsOf inLink fs

end

end Criteria

/-- The element of a column. -/
def columnElement (name : String) : Element :=
  .leaf "attribute" [("name", name)]

namespace Link

mutual

/-- The element of a link. -/
def toElement : Link → Element
  | ⟨_, fromName, toEntity, toName, type, label, criteria, links, columns⟩ =>
    ⟨"link-entity",
      [("name", toEntity), ("from", toName), ("to", fromName), ("link-type", type.xmlName)] ++
        attributeIf "alias" label,
      columns.map columnElement ++ criteria.toElements true ++ elementsOf links, ""⟩

/-- The elements of some links. -/
def elementsOf : List Link → List Element
  | [] => []
  | l :: ls => l.toElement :: elementsOf ls

end

end Link

/-- The element of a sort key. -/
def SortKey.toElement (k : SortKey) : Element :=
  .leaf "order" <|
    ("attribute", k.name) ::
      match k.direction with
      | .ascending => []
      | .descending => [("descending", "true")]

/-- The elements of a set of columns. -/
def ColumnSet.toElements : ColumnSet → List Element
  | all => [.leaf "all-attributes" []]
  | only names => names.map columnElement

/-- The attributes that say which page is wanted. -/
def Page.toAttributes (p : Page) : List (String × String) :=
  [("count", natText p.count), ("page", natText p.number)] ++
    attributeIf "paging-cookie" p.cookie

namespace Query

/-- The attributes of the root element. -/
def rootAttributes (q : Query) : List (String × String) :=
  attributeIf "top" (q.top.map natText) ++
    (match q.page with
      | some page => page.toAttributes
      | none => []) ++
    if q.wantsTotal then [("returntotalrecordcount", "true")] else []

/-- The element of a query. -/
def toElement (q : Query) : Element :=
  ⟨"fetch", q.rootAttributes,
    [⟨"entity", [("name", q.entity)],
      q.columns.toElements ++ q.orders.map SortKey.toElement ++
        q.criteria.toElements false ++ Link.elementsOf q.links, ""⟩], ""⟩

/-- The text of a query on one line. -/
def toXml (q : Query) : String :=
  q.toElement.print

/-- The text of a query with a line for each element. -/
def toIndentedXml (q : Query) : String :=
  q.toElement.printIndented

end Query

/-! ### Reading -/

open Element in
/-- The failure of an element in a place where it may not stand. -/
def unexpectedElement {α : Type} (e : Element) (place : String) : Answer α :=
  malformed ("unexpected `<" ++ e.name ++ ">` in `<" ++ place ++ ">`")

/-- Read a condition. -/
def Condition.ofElement (e : Element) : Answer Condition := do
  let name ← e.required "attribute"
  let operator ← Operator.ofText (← e.required "operator")
  let listed := (e.children.filter (·.name == "value")).map (·.text)
  let texts := (e.attribute? "value").toList ++ listed
  return ⟨e.attribute? "entityname", name, operator, texts.map fun s => .text (some s)⟩

/-- Read the connective of a group. -/
def Connective.ofElement (e : Element) : Answer Connective :=
  match e.attribute? "type" with
  | none => .ok .and
  | some s =>
    if Text.eqIgnoreCase s "and" then .ok .and
    else if Text.eqIgnoreCase s "or" then .ok .or
    else Element.malformed ("unknown filter type `" ++ s ++ "`, expected and or or")

namespace Criteria

mutual

/-- Read a group. -/
def ofElement : Element → Answer Criteria
  | ⟨name, attributes, children, text⟩ => do
    let connective ← Connective.ofElement ⟨name, attributes, [], text⟩
    ofChildren ⟨connective, [], []⟩ children

/-- Add the children of a group to it. -/
def ofChildren (f : Criteria) : List Element → Answer Criteria
  | [] => .ok f
  | e :: es => do
    if e.name = "condition" then
      let c ← Condition.ofElement e
      ofChildren { f with conditions := f.conditions ++ [c] } es
    else if e.name = "filter" then
      let g ← ofElement e
      ofChildren { f with filters := f.filters ++ [g] } es
    else unexpectedElement e "filter"

end

end Criteria

namespace Link

/-- Read a link without its children. -/
def headOfElement (parent : String) (e : Element) : Answer Link := do
  let fromName ← e.required "to"
  let toEntity ← e.required "name"
  let toName ← e.required "from"
  let type ←
    match e.attribute? "link-type" with
    | some s => JoinType.ofText s
    | none => pure .inner
  return ⟨parent, fromName, toEntity, toName, type, e.attribute? "alias", .always, [], []⟩

mutual

/-- Read a link that hangs from a parent. -/
def ofElement (parent : String) : Element → Answer Link
  | ⟨name, attributes, children, text⟩ => do
    ofChildren (← headOfElement parent ⟨name, attributes, [], text⟩) children

/-- Add the children of a link to it. -/
def ofChildren (l : Link) : List Element → Answer Link
  | [] => .ok l
  | e :: es => do
    if e.name = "attribute" then
      let column ← e.required "name"
      ofChildren { l with columns := l.columns ++ [column] } es
    else if e.name = "all-attributes" then ofChildren l es
    else if e.name = "filter" then
      let f ← Criteria.ofElement e
      ofChildren { l with criteria := l.criteria.andAlso f } es
    else if e.name = "link-entity" then
      let nested ← ofElement l.referenceName e
      ofChildren { l with links := l.links ++ [nested] } es
    else unexpectedElement e "link-entity"

end

end Link

/-- Read a sort key. -/
def SortKey.ofElement (e : Element) : Answer SortKey := do
  return ⟨← e.required "attribute", if e.flag "descending" then .descending else .ascending⟩

namespace Query

/-- Read the page that is wanted. -/
def pageOfElement (e : Element) : Answer (Option Page) := do
  match ← e.number? "count" with
  | none => return none
  | some count =>
    let number ← e.number? "page"
    return some ⟨count, number.getD 1, e.attribute? "paging-cookie"⟩

/-- Ask for one column more. A set of all columns is one that has not been narrowed yet. -/
def addColumn (q : Query) (name : String) : Query :=
  { q with
    columns :=
      match q.columns with
      | .all => .only [name]
      | .only names => .only (names ++ [name]) }

/-- Add the children of the element of the entity to a query. -/
def ofChildren (q : Query) : List Element → Answer Query
  | [] => .ok q
  | e :: es => do
    if e.name = "attribute" then ofChildren (q.addColumn (← e.required "name")) es
    else if e.name = "all-attributes" then ofChildren q es
    else if e.name = "order" then
      let order ← SortKey.ofElement e
      ofChildren { q with orders := q.orders ++ [order] } es
    else if e.name = "filter" then
      let f ← Criteria.ofElement e
      ofChildren { q with criteria := q.criteria.andAlso f } es
    else if e.name = "link-entity" then
      let l ← Link.ofElement q.entity e
      ofChildren { q with links := q.links ++ [l] } es
    else unexpectedElement e "entity"

/-- Read a query from its element. -/
def ofElement (e : Element) : Answer Query := do
  if e.name ≠ "fetch" then
    Element.malformed ("expected `<fetch>` as root, found `<" ++ e.name ++ ">`")
  match e.children.filter (·.name == "entity") with
  | [entity] =>
    let name ← entity.required "name"
    let top ← e.number? "top"
    let page ← pageOfElement e
    let start : Query :=
      { ofEntity name with top, page, wantsTotal := e.flag "returntotalrecordcount" }
    let q ← ofChildren start entity.children
    if entity.children.any (·.name == "all-attributes") then return { q with columns := .all }
    return q
  | _ => Element.malformed "`<fetch>` must contain exactly one `<entity>`"

/-- Read a query from its text. -/
def ofXml (s : String) : Answer Query := do
  ofElement (← Element.ofText s)

end Query

end RecordService
