import RecordService.Metadata
import RecordService.Record

namespace RecordService

/-!
# Tables

The records that are kept, a table for each entity, together with what is declared about the
entities. A table keeps its records in the order in which they came first, and an identity has
one record.

* `Table.put`: a record takes the place of the earlier one with its identity.
* `Tables.records`: the records of an entity, found by name ignoring case.
-/

/-! ### Tables of one entity -/

/-- Records of which no two have the same identity. -/
structure Table where
  records : List Record
  nodup : (records.map Record.id).Nodup
  deriving DecidableEq, Repr

namespace Table

/-- No records. -/
def empty : Table :=
  ⟨[], List.nodup_nil⟩

instance : Inhabited Table := ⟨empty⟩

/-- The record with an identity. -/
def find? (t : Table) (id : Uuid) : Option Record :=
  t.records.find? (·.id == some id)

/-- Put a record in the place of the one with the same identity, or at the end. -/
def replace (r : Record) : List Record → List Record
  | [] => [r]
  | other :: rest => if other.id = r.id then r :: rest else other :: replace r rest

/-- Putting a record adds its identity, and no other. -/
theorem mem_ids_replace {r : Record} {id : Option Uuid} {records : List Record} :
    id ∈ (replace r records).map Record.id ↔ id = r.id ∨ id ∈ records.map Record.id := by
  induction records with
  | nil => simp [replace]
  | cons other rest ih =>
    by_cases h : other.id = r.id
    · simp [replace, h]
    · simp only [replace, h, if_false, List.map_cons, List.mem_cons, ih]
      constructor <;> rintro (h | h | h) <;> simp [h]

/-- Putting a record adds that record, and no other. -/
theorem mem_replace {r other : Record} {records : List Record} (h : other ∈ replace r records) :
    other = r ∨ other ∈ records := by
  induction records with
  | nil => exact .inl (List.mem_singleton.1 h)
  | cons first rest ih =>
    by_cases hid : first.id = r.id
    · rw [replace, if_pos hid, List.mem_cons] at h
      exact h.imp_right (List.mem_cons_of_mem _)
    · rw [replace, if_neg hid, List.mem_cons] at h
      rcases h with rfl | h
      · exact .inr List.mem_cons_self
      · exact (ih h).imp_right (List.mem_cons_of_mem _)

/-- Putting a record leaves the identities without doubles. -/
theorem nodup_replace {r : Record} {records : List Record}
    (h : (records.map Record.id).Nodup) : ((replace r records).map Record.id).Nodup := by
  induction records with
  | nil => simp [replace]
  | cons other rest ih =>
    rw [List.map_cons, List.nodup_cons] at h
    by_cases hid : other.id = r.id
    · rw [replace, if_pos hid, List.map_cons, List.nodup_cons]
      exact hid ▸ h
    · rw [replace, if_neg hid, List.map_cons, List.nodup_cons, mem_ids_replace]
      exact ⟨fun hm => hm.elim hid h.1, ih h.2⟩

/-- A record is found under its own identity. -/
theorem id_of_find? {t : Table} {r : Record} {id : Uuid} (h : t.find? id = some r) :
    r.id = some id := by
  unfold find? at h
  simpa using List.find?_some h

/-- Every record is found by its identity. -/
theorem find?_of_mem {t : Table} {r : Record} {id : Uuid} (hr : r ∈ t.records)
    (hid : r.id = some id) : t.find? id = some r := by
  unfold find?
  have hnodup := t.nodup
  revert hr hnodup
  induction t.records with
  | nil => exact nofun
  | cons first rest ih =>
    intro hr hnodup
    rw [List.map_cons, List.nodup_cons] at hnodup
    rcases List.mem_cons.1 hr with rfl | hr
    · rw [List.find?_cons_of_pos (by simp [hid])]
    · have hother : first.id ≠ some id := by
        intro heq
        exact hnodup.1 (heq.trans hid.symm ▸ List.mem_map_of_mem hr)
      rw [List.find?_cons_of_neg (by simpa using hother)]
      exact ih hr hnodup.2

/-- Keep a record under its identity. -/
def put (t : Table) (r : Record) : Table :=
  ⟨replace r t.records, nodup_replace t.nodup⟩

end Table

/-! ### Tables of all entities -/

/-- The declared entities, and the tables by the names of their entities in small letters. -/
structure Tables where
  catalog : Catalog
  byName : Dict Table

namespace Tables

/-- Tables without records. -/
def ofCatalog (catalog : Catalog) : Tables :=
  ⟨catalog, .empty⟩

/-- The table of an entity. -/
def table (ts : Tables) (entity : String) : Table :=
  (ts.byName.get? (Text.lower entity)).getD .empty

/-- The records of an entity. -/
def records (ts : Tables) (entity : String) : List Record :=
  (ts.table entity).records

/-- The record of an entity with an identity. -/
def find? (ts : Tables) (entity : String) (id : Uuid) : Option Record :=
  (ts.table entity).find? id

/-- Keep a record in the table of an entity. -/
def put (ts : Tables) (entity : String) (r : Record) : Tables :=
  { ts with byName := ts.byName.insert (Text.lower entity) ((ts.table entity).put r) }

/-- Remove all records. -/
def clear (ts : Tables) : Tables :=
  ofCatalog ts.catalog

end Tables

end RecordService
