import RecordService.Column

namespace RecordService

/-!
# Output columns of an entity

The columns in which the records of an entity are put out, all of them known to the metadata.

* `ColumnPlan.ofTexts`: the plan of some columns, or of all columns.
* `ColumnPlan.columnSet`: the attributes that the plan needs.
-/

/-- The columns for records of an entity. -/
structure ColumnPlan where
  entity : Entity
  columns : List Column
  /-- Whether references are put out as the names of the records they point to. -/
  lookupsReturnName : Bool

namespace ColumnPlan

/-- The columns of some texts; no texts stand for all columns. -/
def columnsOf (e : Entity) (texts : List String) : Answer (List Column) :=
  if texts.isEmpty then .ok ((e.columnNames false []).map (⟨·, .default⟩))
  else texts.mapM Column.ofText

/-- The first column that the entity does not have. -/
def unknown? (e : Entity) (columns : List Column) : Option Column :=
  columns.find? fun c => (e.attribute? c.name).isNone

/-- The plan of some columns. -/
def ofTexts (e : Entity) (texts : List String) : Answer ColumnPlan := do
  let columns ← columnsOf e texts
  match unknown? e columns with
  | some c => fail (.unknownAttribute e.name c.name)
  | none => return ⟨e, columns, false⟩

/-- The attributes that the plan needs, each of them once. -/
def columnSet (p : ColumnPlan) : ColumnSet :=
  .only <| p.columns.foldl
    (fun names c => if isNameIn names c.name then names else names ++ [c.name]) []

end ColumnPlan

end RecordService
