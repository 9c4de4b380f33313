import RecordService.Column
import RecordService.Join

namespace RecordService

/-!
# Queries

A query selects the records of an entity that meet its criteria, joins linked records to them,
sorts them and cuts out a page.

* `Query.countOnly`: the query that counts what another one selects.
* `SortKey.ofText`: reads a sort key.
-/

/-- Directions of sorting. -/
inductive Direction where
  | ascending
  | descending
  deriving DecidableEq, Repr

/-- The name of a direction. -/
def Direction.name : Direction → String
  | ascending => "ASC"
  | descending => "DESC"

/-- An attribute to sort by. -/
structure SortKey where
  name : String
  direction : Direction
  deriving DecidableEq, Repr

namespace SortKey

/-- A text without the plus signs at its end. -/
def dropPlus (cs : List Char) : List Char :=
  (cs.reverse.dropWhile (· == '+')).reverse

/-- Read a sort key: `name` or `name+` ascending, `name-` descending. -/
def ofText (s : String) : SortKey :=
  let cs := Text.trimChars s.toList
  if cs.getLast? = some '-' then ⟨String.ofList (Text.trimChars cs.dropLast), .descending⟩
  else ⟨String.ofList (Text.trimChars (dropPlus cs)), .ascending⟩

/-- The text of a sort key. -/
def toText (k : SortKey) : String :=
  k.name ++ " " ++ k.direction.name

end SortKey

/-- The part of the result that is asked for. Pages are numbered from one. -/
structure Page where
  count : Nat
  number : Nat
  /-- What the service gave to find the page again. -/
  cookie : Option String
  deriving DecidableEq, Repr

/-- The first page of some size. -/
def Page.first (count : Nat) : Page :=
  ⟨count, 1, none⟩

/-- The size of pages when a query does not say. -/
def defaultPageSize : Nat := 5000

/-- A query. -/
structure Query where
  entity : String
  columns : ColumnSet
  criteria : Criteria
  links : List Link
  orders : List SortKey
  top : Option Nat
  page : Option Page
  /-- Whether the number of all records is wanted. -/
  wantsTotal : Bool
  deriving Repr

namespace Query

/-- The query for all records of an entity. -/
def ofEntity (entity : String) : Query :=
  ⟨entity, .all, .always, [], [], none, none, false⟩

/-- The same selection without columns, order, limit and page, asking for the number of
records. -/
def countOnly (q : Query) : Query :=
  { ofEntity q.entity with
    columns := .only []
    criteria := q.criteria
    links := Link.allWithoutColumns q.links
    wantsTotal := true }

end Query

end RecordService
