import RecordService.Exchange.Metadata
import RecordService.Query.Draft

namespace RecordService.Exchange

/-!
# Exchange of queries

Filters, criteria, links, queries and drafts of queries. A reader of a tree goes no deeper than
the tree is.
-/

/-! ### Filters -/

mutual

/-- A filter. -/
def filter : Filter → Json
  | .condition name operator operand =>
    .object
      [("attribute", .string name), ("operator", .string operator.name), ("value", operand)]
  | .group kind children =>
    .object [("group", .string kind.name), ("children", .array (filters children))]

/-- Some filters. -/
def filters : List Filter → List Json
  | [] => []
  | f :: fs => filter f :: filters fs

end

/-- A filter of at most a given depth. -/
def readFilterWithin : Nat → Json → Answer Filter
  | 0, _ => undecodable
  | depth + 1, j =>
    match textOf? j "group" with
    | some group => do
      let kind ← required (GroupKind.ofKey? group)
      return .group kind (← (itemsOf j "children").mapM (readFilterWithin depth))
    | none => do
      let operator ← Operator.ofText (textOf j "operator")
      return .condition (textOf j "attribute") operator (j.member "value")

/-- A filter. -/
def readFilter (j : Json) : Answer Filter :=
  readFilterWithin j.depth j

/-! ### Criteria -/

/-- A condition. -/
def condition (c : Condition) : Json :=
  .object
    [("alias", optional .string c.owner), ("attribute", .string c.name),
     ("operator", .string c.operator.name), ("values", .array (c.values.map value))]

mutual

/-- Criteria. -/
def criteria : Criteria → Json
  | ⟨connective, conditions, groups⟩ =>
    .object
      [("type", .string connective.name), ("conditions", .array (conditions.map condition)),
       ("filters", .array (criteriaList groups))]

/-- Some criteria. -/
def criteriaList : List Criteria → List Json
  | [] => []
  | f :: fs => criteria f :: criteriaList fs

end

/-- A condition. -/
def readCondition (j : Json) : Answer Condition := do
  let operator ← Operator.ofText (textOf j "operator")
  let values ← (itemsOf j "values").mapM readValue
  return ⟨textOf? j "alias", textOf j "attribute", operator, values⟩

/-- Criteria of at most a given depth. -/
def readCriteriaWithin : Nat → Json → Answer Criteria
  | 0, _ => undecodable
  | depth + 1, j => do
    let conditions ← (itemsOf j "conditions").mapM readCondition
    let groups ← (itemsOf j "filters").mapM (readCriteriaWithin depth)
    return ⟨if textOf j "type" == "or" then .or else .and, conditions, groups⟩

/-- Criteria; nothing stands for those that every record meets. -/
def readCriteria (j : Json) : Answer Criteria :=
  if j.isNull then .ok .always else readCriteriaWithin j.depth j

/-! ### Links -/

mutual

/-- A link. -/
def link : Link → Json
  | ⟨fromEntity, fromName, toEntity, toName, type, label, c, links, columns⟩ =>
    .object
      [("from", texts [fromEntity, fromName]), ("to", texts [toEntity, toName]),
       ("type", .string type.name), ("alias", optional .string label),
       ("columns", texts columns), ("criteria", criteria c), ("links", .array (linkList links))]

/-- Some links. -/
def linkList : List Link → List Json
  | [] => []
  | l :: ls => link l :: linkList ls

end

/-- A pair of texts. -/
def readPair (j : Json) : String × String :=
  match asTexts j with
  | [a, b] => (a, b)
  | _ => ("", "")

/-- A link of at most a given depth. -/
def readLinkWithin : Nat → Json → Answer Link
  | 0, _ => undecodable
  | depth + 1, j => do
    let source := readPair (j.member "from")
    let target := readPair (j.member "to")
    let type ←
      match textOf? j "type" with
      | some s => JoinType.ofText s
      | none => pure .inner
    let c ← readCriteria (j.member "criteria")
    let links ← (itemsOf j "links").mapM (readLinkWithin depth)
    return ⟨source.1, source.2, target.1, target.2, type, textOf? j "alias", c, links,
      textsOf j "columns"⟩

/-- A link. -/
def readLink (j : Json) : Answer Link :=
  readLinkWithin j.depth j

/-- A join, native if it says so. -/
def readJoin (j : Json) : Answer JoinInput :=
  if hasMember j "$native" then (readLink (j.member "$native")).map .native
  else .ok (.loose j)

/-! ### Queries -/

/-- A natural number. -/
def nat (n : Nat) : Json :=
  .int n

/-- A sort key. -/
def sortKey (k : SortKey) : Json :=
  texts [k.name, k.direction.name]

/-- A page. -/
def page (p : Page) : Json :=
  .object
    [("count", nat p.count), ("page", nat p.number), ("cookie", optional .string p.cookie)]

/-- A set of columns. -/
def columnSet : ColumnSet → Json
  | .all => .null
  | .only names => texts names

/-- A query. -/
def query (q : Query) : Json :=
  .object
    [("entity", .string q.entity), ("columns", columnSet q.columns),
     ("criteria", criteria q.criteria), ("links", .array (linkList q.links)),
     ("orders", .array (q.orders.map sortKey)), ("top", optional nat q.top),
     ("page", optional page q.page), ("total", .bool q.wantsTotal)]

/-- A set of columns. -/
def readColumnSet (j : Json) : ColumnSet :=
  if j.isNull then .all else .only (asTexts j)

/-- A sort key. -/
def readSortKey (j : Json) : SortKey :=
  let (name, direction) := readPair j
  ⟨name, if direction == "DESC" then .descending else .ascending⟩

/-- A page. -/
def readPage (j : Json) : Page :=
  ⟨(natOf? j "count").getD 0, (natOf? j "page").getD 1, textOf? j "cookie"⟩

/-- A query. -/
def readQuery (j : Json) : Answer Query := do
  let c ← readCriteria (j.member "criteria")
  let links ← (itemsOf j "links").mapM readLink
  return {
    entity := textOf j "entity"
    columns := readColumnSet (j.member "columns")
    criteria := c
    links
    orders := (itemsOf j "orders").map readSortKey
    top := natOf? j "top"
    page := if (j.member "page").isNull then none else some (readPage (j.member "page"))
    wantsTotal := boolOf j "total" }

/-- The value of a member that is there, even if it is null. -/
def present? (j : Json) (name : String) : Option Json :=
  if hasMember j name then some (j.member name) else none

/-- A draft of a query. -/
def readDraft (j : Json) : Answer QueryDraft := do
  let joins ← (itemsOf j "joins").mapM readJoin
  let ids ← (itemsOf j "ids").mapM readUuid
  let excludeIds ← (itemsOf j "exclude_ids").mapM readUuid
  return {
    entity := textOf j "table"
    columns := textsOf j "columns"
    filter := present? j "filter"
    excludeFilter := present? j "exclude_filter"
    joins
    orderBy := textsOf j "order_by"
    top := natOf? j "top"
    ids
    names := textsOf j "names"
    excludeIds
    pageSize := natOf? j "page_size" }

end RecordService.Exchange
