import RecordService.Evaluation.Condition
import RecordService.Journal
import RecordService.Tables

namespace RecordService

/-!
# Rows

A row is a record of the entity that a query selects from, with the records that its links have
joined so far. Criteria are evaluated on a row, seen from one of its records.

* `Scope.value`: the value of an attribute, with or without the name of a link.
* `Scope.holds`: whether criteria hold.
* `Scope.journal`: what the evaluation of criteria notes.
-/

/-- A record with its joined records by the names of their links, earliest first. A link that
found no record has none. -/
structure Row where
  root : Record
  links : List (String × Option Record)
  deriving DecidableEq, Repr

namespace Row

/-- A row without links. -/
def ofRecord (r : Record) : Row :=
  ⟨r, []⟩

/-- What the latest link of a name has joined. -/
def link? (row : Row) (name : String) : Option (Option Record) :=
  (row.links.reverse.find? fun entry => Text.eqIgnoreCase entry.1 name).map Prod.snd

/-- Join a record, or none. -/
def join (row : Row) (name : String) (r : Option Record) : Row :=
  { row with links := row.links ++ [(name, r)] }

end Row

/-- The view of a row from one of its records. -/
structure Scope where
  tables : Tables
  row : Row
  current : Record

namespace Scope

/-- A row seen from its root. -/
def ofRow (tables : Tables) (row : Row) : Scope :=
  ⟨tables, row, row.root⟩

/-! ### Values -/

/-- What a name in front of an attribute stands for: a link, or else the root by the name of its
entity. -/
def named? (s : Scope) (owner : String) : Option (Option Record) :=
  match s.row.link? owner with
  | some r => some r
  | none => if Text.eqIgnoreCase s.row.root.entity owner then some (some s.row.root) else none

/-- The record that has an attribute, if there is one. -/
def owner? (s : Scope) : Option String → Option Record
  | none => some s.current
  | some owner => (s.named? owner).join

/-- The value of an attribute. Without a record it is null. -/
def value (s : Scope) (owner : Option String) (name : String) : Value :=
  match s.owner? owner with
  | some r => r.valueOf (s.tables.catalog.entity? r.entity) name
  | none => .null

/-- The warning about a name that stands for nothing. -/
def valueJournal (s : Scope) (owner : Option String) (name : String) : List JournalLine :=
  match owner with
  | none => []
  | some owner =>
    if (s.named? owner).isSome then []
    else
      [warnLine ("Condition on `" ++ owner ++ "." ++ name ++ "` names no link of the query")]

/-! ### Criteria -/

/-- Whether a condition holds. -/
def meets (s : Scope) (c : Condition) : Bool :=
  c.holdsFor (s.value c.owner c.name)

mutual

/-- Whether criteria hold. -/
def holds (s : Scope) : Criteria → Bool
  | ⟨.and, conditions, filters⟩ => conditions.all s.meets && allHold s filters
  | ⟨.or, conditions, filters⟩ =>
    (conditions.isEmpty && filters.isEmpty) || conditions.any s.meets || anyHolds s filters

/-- Whether all criteria of a list hold. -/
def allHold (s : Scope) : List Criteria → Bool
  | [] => true
  | f :: fs => s.holds f && allHold s fs

/-- Whether some criteria of a list hold. -/
def anyHolds (s : Scope) : List Criteria → Bool
  | [] => false
  | f :: fs => s.holds f || anyHolds s fs

end

/-! ### Journal -/

/-- Whether a member of a group with the given result decides the group. -/
def decides (connective : Connective) (result : Bool) : Bool :=
  result == (connective == .or)

/-- The warnings of some conditions, up to the one that decides their group. -/
def conditionJournal (s : Scope) (connective : Connective) : List Condition → List JournalLine
  | [] => []
  | c :: cs =>
    s.valueJournal c.owner c.name ++
      if decides connective (s.meets c) then [] else conditionJournal s connective cs

mutual

/-- The warnings that the evaluation of criteria leaves. -/
def journal (s : Scope) : Criteria → List JournalLine
  | ⟨connective, conditions, filters⟩ =>
    s.conditionJournal connective conditions ++
      if conditions.any fun c => decides connective (s.meets c) then []
      else journalAll s connective filters

/-- The warnings of the members of a group, up to the one that decides it. -/
def journalAll (s : Scope) (connective : Connective) : List Criteria → List JournalLine
  | [] => []
  | f :: fs =>
    s.journal f ++
      if decides connective (s.holds f) then [] else journalAll s connective fs

end

end Scope

end RecordService
