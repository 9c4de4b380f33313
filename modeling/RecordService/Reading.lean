import RecordService.Coercion.Rendering
import RecordService.Column.Plan
import RecordService.Reading.Names
import RecordService.Reading.Pages

namespace RecordService

/-!
# Reading records

Records are put out as objects with the wanted columns, the attributes of linked records, the
identity and the name of the entity.

* `ColumnPlan.row`: the object of a record.
* `Reading.rows`: the objects of the records that a query selects.
-/

variable {σ : Type}

/-! ### Rows -/

namespace ColumnPlan

/-- Whether a column shows references by the names of their records. -/
def showsNames (p : ColumnPlan) (format : ColumnFormat) : Bool :=
  format == .display || (format == .default && p.lookupsReturnName)

/-- A reference by the name of its record. -/
def renderName (service : Service σ) (a : Attribute) (format : ColumnFormat) (r : Reference) :
    Naming σ Json := do
  match ← r.fetchName service with
  | some name => return .string name
  | none =>
    if format == .display then Naming.ofCall (.ofAnswer (a.render .display (.reference (some r))))
    else return .null

/-- The content of a column that is no name. -/
def renderPlain (a : Attribute) (c : Column) (r : Record) (v : Value) : Answer Json :=
  inContext ("While reading column `" ++ c.outputName ++ "` of " ++ r.toText)
    (a.render c.format v)

/-- The content of a column. -/
def cell (p : ColumnPlan) (service : Service σ) (r : Record) (a : Attribute) (c : Column) :
    Naming σ Json :=
  let v := (r.get? c.name).getD a.type.emptyValue
  match v with
  | .reference (some target) =>
    if p.showsNames c.format then renderName service a c.format target
    else Naming.ofCall (.ofAnswer (renderPlain a c r v))
  | v => Naming.ofCall (.ofAnswer (renderPlain a c r v))

/-- The columns of a record. -/
def cells (p : ColumnPlan) (service : Service σ) (r : Record) :
    List Column → Dict Json → Naming σ (Dict Json)
  | [], row => return row
  | c :: cs, row => do
    match p.entity.attribute? c.name with
    | none => cells p service r cs row
    | some a =>
      let j ← p.cell service r a c
      cells p service r cs (row.insert c.outputName j)

/-- Whether an attribute is that of a linked record. -/
def isLinked (name : String) : Bool :=
  name.toList.contains '.'

/-- Add the attributes of linked records, unless a column has their name. -/
def withLinked (r : Record) (row : Dict Json) : Dict Json :=
  r.attributes.entries.foldl
    (fun row (name, v) =>
      if isLinked name && !row.contains name then row.insert name v.toJson else row)
    row

/-- Add identity and entity. -/
def withIdentity (r : Record) (row : Dict Json) : Dict Json :=
  let id : Json :=
    match r.id with
    | some id => .string id.toText
    | none => .null
  (row.insert "Id" id).insert "TableName" (.string r.entity)

/-- The object of a record. -/
def row (p : ColumnPlan) (service : Service σ) (r : Record) : Naming σ (Dict Json) := do
  return withIdentity r (withLinked r (← p.cells service r p.columns .empty))

end ColumnPlan

/-! ### Reading -/

/-- What to read, and how to put it out. -/
structure Reading where
  query : Query
  /-- The wanted columns; none stand for those of the query. -/
  columns : List String
  lookupsReturnName : Bool
  pageSize : Nat

namespace Reading

/-- Read a query with its own columns. -/
def ofQuery (q : Query) : Reading :=
  ⟨q, [], false, defaultPageSize⟩

/-- The columns to put out. -/
def wantedColumns (r : Reading) : List String :=
  match r.columns, r.query.columns with
  | [], .only names => names
  | columns, _ => columns

/-- The plan of the columns to put out. -/
def plan (r : Reading) (service : Service σ) : Call σ ColumnPlan := do
  let e ← service.metadata r.query.entity
  let plan ← Call.ofAnswer (ColumnPlan.ofTexts e r.wantedColumns)
  return { plan with lookupsReturnName := r.lookupsReturnName }

/-- What a visit knows: the names so far, and the rows so far, latest first. -/
abbrev Progress := NameCache × List (Dict Json)

/-- Put out a record and go on as `next` says. -/
def visitor (service : Service σ) (p : ColumnPlan) (next : Progress → Visit Progress) :
    Visitor σ Progress :=
  fun (names, rows) record => do
    match ← (p.row service record).run names with
    | (.ok row, names) => return next (names, row :: rows)
    | (.error e, names) => return .failed (names, rows) e

/-- Visit the records of a query. -/
def visit (r : Reading) (service : Service σ) (next : Progress → Visit Progress) :
    Call σ (List (Dict Json)) := do
  let plan ← r.plan service
  let q := { r.query with columns := plan.columnSet }
  let visited := q.visitAll service (visitor service plan next) r.pageSize ([], [])
  match ← Call.ofState visited with
  | .next (_, rows) => return rows.reverse
  | .stopped (_, rows) => return rows.reverse
  | .failed _ e => throw e

/-- The objects of the records that a query selects. -/
def rows (r : Reading) (service : Service σ) : Call σ (List (Dict Json)) :=
  r.visit service .next

/-- The object of the first record that a query selects. Nothing more is read. -/
def firstRow? (r : Reading) (service : Service σ) : Call σ (Option (Dict Json)) := do
  return (← r.visit service .stopped).head?

end Reading

end RecordService
