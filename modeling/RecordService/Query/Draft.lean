import RecordService.Join.Compilation
import RecordService.Query.Markup

namespace RecordService

/-!
# Drafts of queries

A query in loose terms. It selects the records that meet the filter, do not meet the exclusions,
and have one of the given identities and one of the given names; parts that are missing do not
restrict the selection.

* `QueryDraft.selection`: all of it as one filter.
* `QueryDraft.build`: the query.
* `QueryDraft.journal`: what building notes.
-/

/-- A query in loose terms. -/
structure QueryDraft where
  entity : String
  columns : List String
  filter : Option Json
  excludeFilter : Option Json
  joins : List JoinInput
  orderBy : List String
  top : Option Nat
  ids : List Uuid
  names : List String
  excludeIds : List Uuid
  pageSize : Option Nat

namespace QueryDraft

/-- The draft for all records of an entity. -/
def ofEntity (entity : String) : QueryDraft :=
  ⟨entity, [], none, none, [], [], none, [], [], [], none⟩

/-! ### Selection -/

/-- Identities as loose data. -/
def idList (ids : List Uuid) : Json :=
  .array (ids.map fun id => .string id.toText)

/-- A filter for some identities, if there are any. -/
def idFilter (primaryId : String) (ids : List Uuid) : List Filter :=
  if ids.isEmpty then [] else [.condition primaryId .isIn (idList ids)]

/-- Read a filter that may be missing. -/
def readFilter (place : String) : Option Json → Answer (List Filter)
  | none => .ok []
  | some j => inContext ("While parsing the " ++ place) do return [← Filter.ofJson j]

/-- The filter for the names. It needs to know the attribute that has them. -/
def nameFilter (d : QueryDraft) (e? : Option Entity) : Answer (List Filter) :=
  if d.names.isEmpty then .ok []
  else
    match e?.bind (·.primaryName) with
    | some name => .ok [.condition name .isIn (.array (d.names.map .string))]
    | none =>
      fail <| .invalidOptions <|
        "cannot select `" ++ d.entity ++ "` by name without a known primary name attribute"

/-- The selection as one filter. -/
def selection (d : QueryDraft) (e? : Option Entity) : Answer Filter := do
  let primaryId := (e?.map (·.primaryId)).getD (Entity.defaultPrimaryId d.entity)
  let included ← readFilter ("filter of `" ++ d.entity ++ "`") d.filter
  let excluded ← readFilter ("exclude filter of `" ++ d.entity ++ "`") d.excludeFilter
  let excluded := excluded ++ idFilter primaryId d.excludeIds
  let exclusion : List Filter :=
    if excluded.isEmpty then [] else [.group .not [.group .or excluded]]
  let named ← d.nameFilter e?
  return .group .and (included ++ exclusion ++ idFilter primaryId d.ids ++ named)

/-! ### Building -/

/-- The attributes of the columns, each of them once. -/
def columnNames (e? : Option Entity) : List String → List String → Answer (List String)
  | names, [] => .ok names
  | names, text :: texts => do
    let column ← Column.ofText text
    match e? with
    | some e =>
      if (e.attribute? column.name).isNone then fail (.unknownAttribute e.name column.name)
    | none => pure ()
    columnNames e? (if isNameIn names column.name then names else names ++ [column.name]) texts

/-- What a draft asks for but for its joins: the query without links. -/
def frame (d : QueryDraft) (catalog : Catalog) : Answer Query := do
  let e? := catalog.entity? d.entity
  let selection ← d.selection e?
  let criteria ← Filter.compile ⟨e?, some d.entity, none⟩ selection
  let names ← columnNames e? [] d.columns
  return {
    entity := d.entity
    columns := if names.isEmpty then .all else .only names
    criteria
    links := []
    orders := d.orderBy.map SortKey.ofText
    top := d.top
    page := d.pageSize.map Page.first
    wantsTotal := false }

/-- The query of a draft. Entities of the catalog are compiled by their metadata. -/
def build (d : QueryDraft) (catalog : Catalog) : Answer Query := do
  let q ← d.frame catalog
  return { q with links := ← d.joins.mapM (·.compile catalog d.entity) }

/-! ### Journal -/

/-- The lines that some joins leave, up to the first that fails. -/
def joinJournal (catalog : Catalog) (entity : String) : List JoinInput → List JournalLine
  | [] => []
  | join :: joins =>
    join.journal catalog entity ++
      match join.compile catalog entity with
      | .ok _ => joinJournal catalog entity joins
      | .error _ => []

/-- The lines that building leaves. -/
def journal (d : QueryDraft) (catalog : Catalog) : List JournalLine :=
  match d.frame catalog with
  | .error _ => []
  | .ok _ =>
    joinJournal catalog d.entity d.joins ++
      match d.build catalog with
      | .ok q => [debugLine ("Built query " ++ Text.cutLong q.toXml)]
      | .error _ => []

end QueryDraft

/-- The lines that reading a query from XML leaves. -/
def Query.xmlJournal (s : String) : List JournalLine :=
  match Query.ofXml s with
  | .ok q => [debugLine ("Parsed query " ++ Text.cutLong q.toXml)]
  | .error _ => []

end RecordService
