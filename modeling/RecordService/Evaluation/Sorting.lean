import RecordService.Evaluation.Row
import RecordService.Query

namespace RecordService

/-!
# Sorting of rows

Rows are sorted by the keys of a query one after the other, nulls first where the order ascends.
Values that do not compare count as equal, and equal rows keep their order.

* `SortKey.compareRows`: the comparison of two rows by some keys.
* `Row.sort`: the sorted rows.
* `Row.sortJournal`: what sorting notes.
-/

namespace SortKey

/-- The name of a link and the attribute that a key sorts by. -/
def parts (k : SortKey) : Option String × String :=
  match k.name.toList.span (· != '.') with
  | (name, []) => (none, String.ofList name)
  | (owner, _ :: name) => (some (String.ofList owner), String.ofList name)

/-- The value of a row that a key sorts by. -/
def valueIn (k : SortKey) (tables : Tables) (row : Row) : Value :=
  (Scope.ofRow tables row).value k.parts.1 k.parts.2

/-- The order of two values, a null being less than all others. -/
def compareValues (v w : Value) : Ordering :=
  if v.isNull then if w.isNull then .eq else .lt
  else if w.isNull then .gt
  else (v.compare? w).getD .eq

/-- The order in the direction of a key. -/
def directed (k : SortKey) (o : Ordering) : Ordering :=
  match k.direction with
  | .ascending => o
  | .descending => o.swap

/-- The comparison of two rows by a key. -/
def compareBy (k : SortKey) (tables : Tables) (a b : Row) : Ordering :=
  k.directed (compareValues (k.valueIn tables a) (k.valueIn tables b))

/-- The comparison of two rows by some keys, of which the first that tells them apart counts. -/
def compareRows (tables : Tables) : List SortKey → Row → Row → Ordering
  | [], _, _ => .eq
  | k :: ks, a, b => (k.compareBy tables a b).then (compareRows tables ks a b)

/-- The warnings that a comparison leaves. -/
def compareJournal (tables : Tables) : List SortKey → Row → Row → List JournalLine
  | [], _, _ => []
  | k :: ks, a, b =>
    let values (row : Row) := (Scope.ofRow tables row).valueJournal k.parts.1 k.parts.2
    values a ++ values b ++
      if k.compareBy tables a b == .eq then compareJournal tables ks a b else []

end SortKey

namespace Row

/-- Insert a row into sorted rows, which are given from the last to the first. It comes after
those that are not greater. -/
def insertSorted (tables : Tables) (keys : List SortKey) (row : Row) : List Row → List Row
  | [] => [row]
  | last :: rest =>
    if SortKey.compareRows tables keys row last == .lt then
      last :: insertSorted tables keys row rest
    else row :: last :: rest

/-- Sort rows into an order from the last to the first, after some that are sorted already. -/
def sortOnto (tables : Tables) (keys : List SortKey) : List Row → List Row → List Row
  | sorted, [] => sorted
  | sorted, row :: rows => sortOnto tables keys (insertSorted tables keys row sorted) rows

/-- Sort rows by some keys. -/
def sort (tables : Tables) (keys : List SortKey) (rows : List Row) : List Row :=
  if keys.isEmpty then rows else (sortOnto tables keys [] rows).reverse

/-! ### Journal -/

/-- The warnings that an insertion leaves. -/
def insertJournal (tables : Tables) (keys : List SortKey) (row : Row) :
    List Row → List JournalLine
  | [] => []
  | last :: rest =>
    SortKey.compareJournal tables keys row last ++
      if SortKey.compareRows tables keys row last == .lt then
        insertJournal tables keys row rest
      else []

/-- The warnings that sorting leaves. -/
def sortOntoJournal (tables : Tables) (keys : List SortKey) :
    List Row → List Row → List JournalLine
  | _, [] => []
  | sorted, row :: rows =>
    insertJournal tables keys row sorted ++
      sortOntoJournal tables keys (insertSorted tables keys row sorted) rows

/-- The warnings that sorting rows by some keys leaves. -/
def sortJournal (tables : Tables) (keys : List SortKey) (rows : List Row) : List JournalLine :=
  sortOntoJournal tables keys [] rows

end Row

end RecordService
