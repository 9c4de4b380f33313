import RecordService.Evaluation.Row
import RecordService.Join

namespace RecordService.Link

/-!
# Evaluation of links

A link extends a row by every record of its entity whose attribute equals that of the parent and
that meets the criteria of the link; its own links then extend what it found. An outer link keeps
a row that could not be extended.

* `Link.extend`: what a link makes of rows.
* `Link.journal`: what the evaluation of a link notes.
-/

/-- The record that a link starts from: the root, or what the parent link has joined. -/
def source? (parent : Option String) (row : Row) : Option Record :=
  match parent with
  | none => some row.root
  | some name => (row.link? name).join

/-- The value that a link starts from. -/
def key (tables : Tables) (parent : Option String) (fromName : String) (row : Row) : Value :=
  match source? parent row with
  | some r => r.valueOf (tables.catalog.entity? r.entity) fromName
  | none => .null

/-- The records that have the value of the parent. -/
def candidates (tables : Tables) (toEntity toName : String) (key : Value) : List Record :=
  (tables.records toEntity).filter fun r =>
    (r.valueOf (tables.catalog.entity? toEntity) toName).looseEq key

/-- A row joined with a candidate, seen from the candidate. -/
def scope (tables : Tables) (name : String) (row : Row) (candidate : Record) : Scope :=
  ⟨tables, row.join name (some candidate), candidate⟩

/-- What becomes of a row: its extensions, or for an outer link without any the row alone. -/
def orAlone (type : JoinType) (extended alone : List Row) : List Row :=
  if extended.isEmpty && type == .leftOuter then alone else extended

mutual

/-- The rows that a link makes of rows. -/
def extend (tables : Tables) (parent : Option String) : Link → List Row → List Row
  | ⟨_, fromName, toEntity, toName, type, label, criteria, links, _⟩, rows =>
    let name := label.getD toEntity
    rows.flatMap fun row =>
      let found :=
        (candidates tables toEntity toName (key tables parent fromName row)).filter fun r =>
          (scope tables name row r).holds criteria
      orAlone type
        (found.flatMap fun r => extendAll tables (some name) links [row.join name (some r)])
        (extendAll tables (some name) links [row.join name none])

/-- The rows that some links make of rows one after the other. -/
def extendAll (tables : Tables) (parent : Option String) : List Link → List Row → List Row
  | [], rows => rows
  | l :: ls, rows => extendAll tables parent ls (l.extend tables parent rows)

end

/-! ### Journal -/

mutual

/-- The warnings that the evaluation of a link leaves. -/
def rowJournal (tables : Tables) (parent : Option String) : Link → List Row → List JournalLine
  | ⟨_, fromName, toEntity, toName, type, label, criteria, links, _⟩, rows =>
    let name := label.getD toEntity
    rows.flatMap fun row =>
      let found := candidates tables toEntity toName (key tables parent fromName row)
      let extended := (found.filter fun r => (scope tables name row r).holds criteria).flatMap
        fun r => extendAll tables (some name) links [row.join name (some r)]
      (found.flatMap fun r =>
        let s := scope tables name row r
        s.journal criteria ++
          if s.holds criteria then rowJournalAll tables (some name) links [s.row] else []) ++
        if extended.isEmpty && type == .leftOuter then
          rowJournalAll tables (some name) links [row.join name none]
        else []

/-- The warnings that the evaluation of some links leaves. -/
def rowJournalAll (tables : Tables) (parent : Option String) :
    List Link → List Row → List JournalLine
  | [], _ => []
  | l :: ls, rows =>
    rowJournal tables parent l rows ++
      rowJournalAll tables parent ls (l.extend tables parent rows)

end

end RecordService.Link
