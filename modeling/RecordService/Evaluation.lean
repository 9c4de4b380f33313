import RecordService.Evaluation.Join
import RecordService.Evaluation.Sorting
import RecordService.Service

namespace RecordService

/-!
# Evaluation of queries

A query joins its links to the records of its entity, keeps the rows that meet its criteria,
sorts them, cuts them to its limit, and puts out a page of them.

* `Query.rows`: the rows that a query selects, in order.
* `Row.output`: the record that is put out for a row.
* `Query.evaluate`: the page that a query asks for.
* `Query.evaluationJournal`: what the evaluation notes.
-/

/-! ### Output -/

/-- The wanted attributes of a record, which keeps its identity. An attribute that the record
neither has nor can tell is left out. -/
def Record.project (r : Record) (e? : Option Entity) : ColumnSet → Record
  | .all => r
  | .only names =>
    let kept := names.filter fun name =>
      (r.get? name).isSome || !(r.valueOf e? name).isNull
    { r with attributes := .ofList (kept.map fun name => (name, r.valueOf e? name)) }

mutual

/-- The columns of a link and of its links for a row, by the names under which they are put
out. -/
def Link.output (tables : Tables) (row : Row) : Link → List (String × Value)
  | ⟨_, _, toEntity, _, _, label, _, links, columns⟩ =>
    let name := label.getD toEntity
    let own :=
      match row.link? name with
      | some (some r) =>
        let e? := tables.catalog.entity? r.entity
        columns.map fun column => (name ++ "." ++ column, r.valueOf e? column)
      | _ => []
    own ++ Link.outputAll tables row links

/-- The columns of some links for a row. -/
def Link.outputAll (tables : Tables) (row : Row) : List Link → List (String × Value)
  | [] => []
  | l :: ls => l.output tables row ++ Link.outputAll tables row ls

end

/-- The record that is put out for a row: the wanted attributes of the root, and the columns of
the links that joined a record. -/
def Row.output (tables : Tables) (q : Query) (row : Row) : Record :=
  let root := row.root.project (tables.catalog.entity? row.root.entity) q.columns
  { root with attributes := root.attributes.insertAll (Link.outputAll tables row q.links) }

/-! ### Queries -/

namespace Query

/-- The records of an entity with what the links of a query join to them. -/
def joined (q : Query) (tables : Tables) (e : Entity) : List Row :=
  Link.extendAll tables none q.links ((tables.records e.name).map .ofRecord)

/-- The joined rows that meet the criteria. -/
def selected (q : Query) (tables : Tables) (e : Entity) : List Row :=
  (q.joined tables e).filter fun row => (Scope.ofRow tables row).holds q.criteria

/-- The rows that a query selects, in order and up to its limit. -/
def rows (q : Query) (tables : Tables) (e : Entity) : List Row :=
  let sorted := Row.sort tables q.orders (q.selected tables e)
  match q.top with
  | some n => sorted.take n
  | none => sorted

/-- The page that a query asks for, which has a positive size and number. -/
def wantedPage (q : Query) : Nat × Nat :=
  match q.page with
  | some p => (max p.count 1, max p.number 1)
  | none => (defaultPageSize, 1)

/-- The page that a query asks for. -/
def evaluate (q : Query) (tables : Tables) (e : Entity) : QueryResult :=
  let rows := q.rows tables e
  let (count, number) := q.wantedPage
  let start := (number - 1) * count
  let more := start + count < rows.length
  { entity := e.name
    records := ((rows.drop start).take count).map (Row.output tables q)
    total := if q.wantsTotal then some rows.length else none
    more
    cookie := if more then some (toString number) else none }

/-- The lines that the evaluation of a query leaves. -/
def evaluationJournal (q : Query) (tables : Tables) (e : Entity) : List JournalLine :=
  Link.rowJournalAll tables none q.links ((tables.records e.name).map .ofRecord) ++
    ((q.joined tables e).flatMap fun row => (Scope.ofRow tables row).journal q.criteria) ++
    Row.sortJournal tables q.orders (q.selected tables e) ++
    [debugLine <|
      "Query of `" ++ e.name ++ "` returned " ++
        toString (q.evaluate tables e).records.length ++ " of " ++
        toString (q.rows tables e).length ++ " record(s) on page " ++
        toString q.wantedPage.2]

end Query

end RecordService
