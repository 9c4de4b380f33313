import Mathlib.Data.List.Nodup
import RecordService.Proofs.Dict
import RecordService.Proofs.Store.Outcomes

namespace RecordService

/-!
# Places of records

A store has a place for every identity in every table. A request with an identity looks at its own
place and writes there, and so requests about different places know nothing of each other.

* `Tables.at?`, `Tables.at?_put`: the record in a place, and what a change does to all of them.
* `Tables.outline`, `Tables.ext_at?`: tables are told by their places and what is kept there.
* `Store.AgreeAt.receive`: what a request does follows from the record in its place.
* `Store.at?_receiveAll`: a place is touched by the requests about it alone.
* `Store.tables_receiveAll_of_at?`: requests that leave every place as it was change no table.
-/

/-! ### Tables by place -/

/-- Where a record is kept: the key of a table, and an identity in it. -/
structure Place where
  key : String
  id : Option Uuid
  deriving DecidableEq

namespace Table

/-- A record that is put is found by its own identity, and the others are found as before. -/
theorem find?_replace (r : Record) (id : Option Uuid) (records : List Record) :
    (replace r records).find? (·.id == id) =
      if id = r.id then some r else records.find? (·.id == id) := by
  induction records with
  | nil =>
    by_cases h : id = r.id
    · simp [replace, h]
    · simp [replace, h, Ne.symm h]
  | cons other records ih =>
    by_cases hother : other.id = r.id
    · by_cases h : id = r.id
      · simp [replace, hother, h]
      · -- the record that is replaced is not the one that is looked for
        have hne : ¬ r.id = id := Ne.symm h
        simp [replace, hother, h, hne]
    · by_cases h : other.id = id
      · subst h
        simp [replace, hother]
      · simp [replace, hother, h, ih]

/-- A record that takes the place of another one changes no identities. -/
theorem ids_replace {r : Record} {records : List Record} (h : r.id ∈ records.map Record.id) :
    (replace r records).map Record.id = records.map Record.id := by
  induction records with
  | nil => simp at h
  | cons other records ih =>
    by_cases hother : other.id = r.id
    · simp [replace, hother]
    · have hrest : r.id ∈ records.map Record.id := by
        rcases List.mem_cons.1 h with h | h
        · exact absurd h.symm hother
        · exact h
      simp [replace, hother, ih hrest]

/-- A record is the one that is found by its identity, or by its having none. -/
theorem find?_eq_some_iff {t : Table} {r : Record} {id : Option Uuid} :
    t.records.find? (·.id == id) = some r ↔ r ∈ t.records ∧ r.id = id := by
  have hsound : ∀ {found : Record}, t.records.find? (·.id == id) = some found →
      found ∈ t.records ∧ found.id = id := by
    intro found hfound
    have hid := List.find?_some hfound
    rw [beq_iff_eq] at hid
    exact ⟨List.mem_of_find?_eq_some hfound, hid⟩
  refine ⟨hsound, ?_⟩
  rintro ⟨hr, hid⟩
  -- something is found, and no other record has that identity
  have hsome : (t.records.find? (·.id == id)).isSome := by
    rw [List.find?_isSome]
    exact ⟨r, hr, beq_iff_eq.2 hid⟩
  obtain ⟨found, hfound⟩ := Option.isSome_iff_exists.1 hsome
  obtain ⟨hmem, hsame⟩ := hsound hfound
  rw [hfound, List.inj_on_of_nodup_map t.nodup hmem hr (hsame.trans hid.symm)]

end Table

namespace Tables

/-- The record in a place. -/
def at? (ts : Tables) (place : Place) : Option Record :=
  ((ts.byName.get? place.key).getD .empty).records.find? (·.id == place.id)

theorem find?_eq_at? (ts : Tables) (entity : String) (id : Uuid) :
    ts.find? entity id = ts.at? ⟨Text.lower entity, some id⟩ := rfl

/-- The record in a place is the one of the table that has the identity. -/
theorem at?_eq_some_iff {ts : Tables} {place : Place} {r : Record} :
    ts.at? place = some r ↔
      r ∈ ((ts.byName.get? place.key).getD .empty).records ∧ r.id = place.id :=
  Table.find?_eq_some_iff

/-- A record that is put changes its place only. -/
theorem at?_put (ts : Tables) (entity : String) (r : Record) (place : Place) :
    (ts.put entity r).at? place =
      if place = ⟨Text.lower entity, r.id⟩ then some r else ts.at? place := by
  obtain ⟨key, id⟩ := place
  show (((ts.byName.insert (Text.lower entity) _).get? key).getD .empty).records.find? _ = _
  rw [Dict.get?_insert]
  by_cases hkey : key = Text.lower entity
  · subst hkey
    rw [if_pos rfl, Option.getD_some]
    show (Table.replace r (ts.table entity).records).find? _ = _
    rw [Table.find?_replace]
    by_cases hid : id = r.id
    · simp [hid]
    · simp only [hid, if_false, Place.mk.injEq, and_false]
      rfl
  · simp only [hkey, if_false, Place.mk.injEq, false_and]
    rfl

/-! ### Tables by outline -/

/-- The identities in each table, in order. -/
def outline (ts : Tables) : Dict (List (Option Uuid)) :=
  ts.byName.map fun t => t.records.map Record.id

/-- A record that is put where there was one keeps the outline. -/
theorem outline_put {ts : Tables} {entity : String} {r : Record}
    (h : (ts.at? ⟨Text.lower entity, r.id⟩).isSome) : (ts.put entity r).outline = ts.outline := by
  obtain ⟨old, hold⟩ := Option.isSome_iff_exists.1 h
  obtain ⟨hmem, hid⟩ := at?_eq_some_iff.1 hold
  cases htable : ts.byName.get? (Text.lower entity) with
  | none =>
    rw [htable] at hmem
    exact nomatch hmem
  | some t =>
    rw [htable] at hmem
    have hids : (t.put r).records.map Record.id = t.records.map Record.id := by
      apply Table.ids_replace
      exact List.mem_map.2 ⟨old, hmem, hid⟩
    have hput : ts.table entity = t := by rw [table, htable, Option.getD_some]
    show (ts.byName.insert _ _).map _ = ts.byName.map _
    rw [hput]
    exact Dict.map_insert_of_get? _ htable hids

/-- Tables with the same declarations, the same outline and the same records in all places are the
same. -/
theorem ext_at? {ts ts' : Tables} (hcatalog : ts.catalog = ts'.catalog)
    (houtline : ts.outline = ts'.outline) (h : ∀ place, ts.at? place = ts'.at? place) :
    ts = ts' := by
  have hnames : ts.byName.names = ts'.byName.names := by
    have houtline_names := congrArg Dict.names houtline
    simpa [outline] using houtline_names
  have hget : ∀ key, ts.byName.get? key = ts'.byName.get? key := by
    intro key
    have hids : (ts.outline).get? key = (ts'.outline).get? key := by rw [houtline]
    simp only [outline, Dict.get?_map] at hids
    cases htable : ts.byName.get? key with
    | none =>
      rw [htable] at hids
      exact (Option.map_eq_none_iff.1 hids.symm).symm
    | some t =>
      rw [htable] at hids
      obtain ⟨t', htable', hids⟩ := Option.map_eq_some_iff.1 hids.symm
      -- the tables have the same identities in the same order, and the same records under them
      have hrecords : t.records = t'.records := by
        refine eq_of_keys Record.id hids.symm t.nodup ?_
        intro r hr
        have hfound : ts.at? ⟨key, r.id⟩ = some r := at?_eq_some_iff.2 (by simp [htable, hr])
        rw [h] at hfound
        simpa [htable'] using (at?_eq_some_iff.1 hfound).1
      obtain ⟨records, nodup⟩ := t
      obtain ⟨records', nodup'⟩ := t'
      cases hrecords
      exact htable'.symm
  obtain ⟨catalog, byName⟩ := ts
  obtain ⟨catalog', byName'⟩ := ts'
  cases hcatalog
  cases Dict.ext_get? hnames hget
  rfl

/-- Tables with the same records in all places have the same records of every entity, in some
order. -/
theorem records_perm {ts ts' : Tables} (h : ∀ place, ts.at? place = ts'.at? place)
    (entity : String) : (ts.records entity).Perm (ts'.records entity) := by
  have hnodup : ∀ t : Table, t.records.Nodup := fun t => List.Nodup.of_map _ t.nodup
  refine (List.perm_ext_iff_of_nodup (hnodup _) (hnodup _)).2 ?_
  intro r
  have hmem := h ⟨Text.lower entity, r.id⟩
  constructor
  · intro hr
    have hfound : ts.at? ⟨Text.lower entity, r.id⟩ = some r := at?_eq_some_iff.2 ⟨hr, rfl⟩
    exact (at?_eq_some_iff.1 (hmem ▸ hfound)).1
  · intro hr
    have hfound : ts'.at? ⟨Text.lower entity, r.id⟩ = some r := at?_eq_some_iff.2 ⟨hr, rfl⟩
    exact (at?_eq_some_iff.1 (hmem.trans hfound)).1

end Tables

/-! ### Requests by place -/

/-- The place that a request is about. -/
def WriteRequest.place (request : WriteRequest) : Place :=
  ⟨Text.lower request.record.entity, request.record.id⟩

namespace Store

/-- A store looks at the record in the place of a request, and at no other one. -/
theorem existing?_eq_at? {s : Store} {e : Entity} {request : WriteRequest} {id : Uuid}
    (hname : Text.lower e.name = Text.lower request.record.entity)
    (hid : request.record.id = some id) :
    s.existing? e request.record = s.tables.at? request.place := by
  rw [existing?, WriteRequest.place, hid, ← hname]
  rfl

/-- What a request with an identity does to a store without pending faults. -/
theorem Calm.receive_eq {s : Store} (h : s.Calm) {request : WriteRequest} {id : Uuid}
    (hid : request.record.id = some id) :
    s.receive request = match s.grant request with
      | .ok e => (.ok ⟨id, (s.existing? e request.record).isNone⟩,
          { s with tables := s.tables.put e.name (s.revised e id request.record) })
      | .error fault => (.error fault, s) := by
  have hidentify : s.identify request.record = (id, s) := by rw [identify, hid]
  unfold Store.receive
  split
  · rename_i hfault
    exact nomatch h.requestFault.symm.trans hfault
  · rw [write_eq_grant, hidentify]
    cases s.grant request <;> rfl

/-- The record that a request leaves in its place, whether it is carried out or not. -/
def leaves (s : Store) (request : WriteRequest) (id : Uuid) : Option Record :=
  match s.grant request with
  | .ok e => some (s.revised e id request.record)
  | .error _ => s.tables.at? request.place

/-- **Locality.** A request with an identity changes the record in its place, and no other one. -/
theorem Calm.at?_receive {s : Store} (h : s.Calm) {request : WriteRequest} {id : Uuid}
    (hid : request.record.id = some id) (place : Place) :
    (s.receive request).2.tables.at? place =
      if place = request.place then s.leaves request id else s.tables.at? place := by
  rw [h.receive_eq hid, leaves]
  cases hgrant : s.grant request with
  | error fault =>
    by_cases hplace : place = request.place
    · simp [hplace]
    · simp [hplace]
  | ok e =>
    have hput : request.place = ⟨Text.lower e.name, (s.revised e id request.record).id⟩ := by
      rw [WriteRequest.place, hid, lower_of_grant hgrant, id_revised]
    dsimp only
    rw [Tables.at?_put, ← hput]

/-- A request leaves the records in other places. -/
theorem Calm.at?_receive_of_ne {s : Store} (h : s.Calm) {request : WriteRequest}
    (hid : request.record.id.isSome) {place : Place} (hne : request.place ≠ place) :
    (s.receive request).2.tables.at? place = s.tables.at? place := by
  obtain ⟨id, hid⟩ := Option.isSome_iff_exists.1 hid
  rw [h.at?_receive hid, if_neg (Ne.symm hne)]

/-- What is declared stays as it is. -/
theorem Calm.catalog_receive {s : Store} (h : s.Calm) {request : WriteRequest}
    (hid : request.record.id.isSome) :
    (s.receive request).2.tables.catalog = s.tables.catalog := by
  obtain ⟨id, hid⟩ := Option.isSome_iff_exists.1 hid
  rw [h.receive_eq hid]
  cases s.grant request <;> rfl

/-- Records do not go away. -/
theorem Calm.isSome_at?_receive {s : Store} (h : s.Calm) {request : WriteRequest}
    (hid : request.record.id.isSome) {place : Place} (hsome : (s.tables.at? place).isSome) :
    ((s.receive request).2.tables.at? place).isSome := by
  obtain ⟨id, hid⟩ := Option.isSome_iff_exists.1 hid
  rw [h.at?_receive hid]
  by_cases hplace : place = request.place
  · subst hplace
    rw [if_pos rfl, leaves]
    cases s.grant request with
    | error fault => exact hsome
    | ok e => rfl
  · rwa [if_neg hplace]

/-! ### Stores that agree -/

/-- Two stores with the same declarations and the same record in a place. -/
structure AgreeAt (place : Place) (s t : Store) : Prop where
  catalog : s.tables.catalog = t.tables.catalog
  kept : s.tables.at? place = t.tables.at? place

section Agree

variable {place : Place} {s t : Store} {request : WriteRequest}

/-- Stores that agree in the place of a request have the same record for it. -/
theorem AgreeAt.existing? {id : Uuid} (h : AgreeAt request.place s t) {e : Entity}
    (hname : Text.lower e.name = Text.lower request.record.entity)
    (hid : request.record.id = some id) :
    s.existing? e request.record = t.existing? e request.record := by
  rw [existing?_eq_at? hname hid, existing?_eq_at? hname hid, h.kept]

/-- Stores that agree in the place of a request let it through or refuse it alike. -/
theorem AgreeAt.grant {id : Uuid} (h : AgreeAt request.place s t)
    (hid : request.record.id = some id) : s.grant request = t.grant request := by
  have hentity : s.entity request.record.entity = t.entity request.record.entity := by
    unfold entity
    rw [h.catalog]
  unfold Store.grant
  rw [hentity]
  cases he : t.entity request.record.entity with
  | error fault => rfl
  | ok e =>
    have hexisting := h.existing? (Catalog.lower_of_entity? (entity_eq_ok.1 he)) hid
    have hexists : s.checkExistence e request = t.checkExistence e request := by
      unfold checkExistence
      rw [hexisting]
    simp only [bind, Except.bind, hexists, hexisting]

/-- Stores that agree in the place of a request have the same record there after it. -/
theorem AgreeAt.leaves {id : Uuid} (h : AgreeAt request.place s t)
    (hid : request.record.id = some id) : s.leaves request id = t.leaves request id := by
  unfold Store.leaves
  rw [h.grant hid]
  cases hgrant : t.grant request with
  | error fault => exact h.kept
  | ok e =>
    have hexisting := h.existing? (lower_of_grant hgrant) hid
    simp only [Store.existing?, hid, Option.bind_some] at hexisting
    simp only [revised, hexisting]

/-- **Agreement.** Stores that agree in the place of a request answer it alike. -/
theorem AgreeAt.answer (h : AgreeAt request.place s t) (hs : s.Calm) (ht : t.Calm)
    (hid : request.record.id.isSome) : (s.receive request).1 = (t.receive request).1 := by
  obtain ⟨id, hid⟩ := Option.isSome_iff_exists.1 hid
  rw [hs.receive_eq hid, ht.receive_eq hid, h.grant hid]
  cases hgrant : t.grant request with
  | error fault => rfl
  | ok e =>
    dsimp only
    rw [h.existing? (lower_of_grant hgrant) hid]

/-- Stores that agree in a place agree there after a request to both. -/
theorem AgreeAt.receive (h : AgreeAt place s t) (hs : s.Calm) (ht : t.Calm)
    (hid : request.record.id.isSome) :
    AgreeAt place (s.receive request).2 (t.receive request).2 := by
  refine ⟨?_, ?_⟩
  · rw [hs.catalog_receive hid, ht.catalog_receive hid, h.catalog]
  · obtain ⟨id, hid⟩ := Option.isSome_iff_exists.1 hid
    rw [hs.at?_receive hid, ht.at?_receive hid]
    by_cases hplace : place = request.place
    · subst hplace
      rw [if_pos rfl, if_pos rfl, h.leaves hid]
    · rw [if_neg hplace, if_neg hplace, h.kept]

/-- A request to one of them makes no difference where it does not write. -/
theorem AgreeAt.receive_of_ne (h : AgreeAt place s t) (hs : s.Calm)
    (hid : request.record.id.isSome) (hne : request.place ≠ place) :
    AgreeAt place (s.receive request).2 t :=
  ⟨(hs.catalog_receive hid).trans h.catalog, (hs.at?_receive_of_ne hid hne).trans h.kept⟩

/-- What happens in a place follows from the requests about it. -/
theorem AgreeAt.receiveAll (h : AgreeAt place s t) (hs : s.Calm) (ht : t.Calm)
    {requests : List WriteRequest} (hids : ∀ request ∈ requests, request.record.id.isSome) :
    AgreeAt place (s.receiveAll requests).2
      (t.receiveAll (requests.filter (·.place = place))).2 := by
  induction requests generalizing s t with
  | nil => exact h
  | cons request requests ih =>
    have hid := hids request List.mem_cons_self
    have hrest : ∀ request ∈ requests, request.record.id.isSome :=
      fun other hother => hids other (List.mem_cons_of_mem _ hother)
    by_cases hplace : request.place = place
    · rw [List.filter_cons_of_pos (by simpa using hplace), receiveAll_cons, receiveAll_cons]
      exact ih (h.receive hs ht hid) (hs.receive request) (ht.receive request) hrest
    · rw [List.filter_cons_of_neg (by simpa using hplace), receiveAll_cons]
      exact ih (h.receive_of_ne hs hid hplace) (hs.receive request) ht hrest

end Agree

/-! ### Requests one after the other -/

variable {s : Store} {requests : List WriteRequest}

/-- The record in a place follows from the requests about it. -/
theorem Calm.at?_receiveAll (h : s.Calm)
    (hids : ∀ request ∈ requests, request.record.id.isSome) (place : Place) :
    (s.receiveAll requests).2.tables.at? place =
      (s.receiveAll (requests.filter (·.place = place))).2.tables.at? place :=
  (AgreeAt.receiveAll ⟨rfl, rfl⟩ h h hids).kept

/-- Requests leave what is declared. -/
theorem Calm.catalog_receiveAll (h : s.Calm)
    (hids : ∀ request ∈ requests, request.record.id.isSome) :
    (s.receiveAll requests).2.tables.catalog = s.tables.catalog := by
  induction requests generalizing s with
  | nil => rfl
  | cons request requests ih =>
    rw [List.forall_mem_cons] at hids
    rw [receiveAll_cons, ih (h.receive request) hids.2, h.catalog_receive hids.1]

/-- Requests leave no place without the record that it had. -/
theorem Calm.isSome_at?_receiveAll (h : s.Calm)
    (hids : ∀ request ∈ requests, request.record.id.isSome) {place : Place}
    (hsome : (s.tables.at? place).isSome) :
    ((s.receiveAll requests).2.tables.at? place).isSome := by
  induction requests generalizing s with
  | nil => exact hsome
  | cons request requests ih =>
    rw [List.forall_mem_cons] at hids
    exact ih (h.receive request) hids.2 (h.isSome_at?_receive hids.1 hsome)

/-- A request keeps the outline of the tables if there was a record in its place before, or if
there is none after it. -/
theorem Calm.outline_receive (h : s.Calm) {request : WriteRequest}
    (hid : request.record.id.isSome)
    (hplace : ((s.receive request).2.tables.at? request.place).isSome →
      (s.tables.at? request.place).isSome) :
    (s.receive request).2.tables.outline = s.tables.outline := by
  obtain ⟨id, hid⟩ := Option.isSome_iff_exists.1 hid
  rw [h.at?_receive hid, if_pos rfl, leaves] at hplace
  rw [h.receive_eq hid]
  cases hgrant : s.grant request with
  | error fault => rfl
  | ok e =>
    rw [hgrant] at hplace
    apply Tables.outline_put
    rw [id_revised, lower_of_grant hgrant, ← hid]
    exact hplace rfl

/-- Requests that add no records keep the outline of the tables. -/
theorem Calm.outline_receiveAll (h : s.Calm)
    (hids : ∀ request ∈ requests, request.record.id.isSome)
    (hplaces : ∀ place, ((s.receiveAll requests).2.tables.at? place).isSome →
      (s.tables.at? place).isSome) :
    (s.receiveAll requests).2.tables.outline = s.tables.outline := by
  induction requests generalizing s with
  | nil => rfl
  | cons request requests ih =>
    rw [List.forall_mem_cons] at hids
    have hs := h.receive request
    -- a record that a request adds is there at the end, and so it was there at the beginning
    have hfirst := h.outline_receive hids.1 fun hsome =>
      hplaces _ (hs.isSome_at?_receiveAll hids.2 hsome)
    have hrest : ∀ place, (((s.receive request).2.receiveAll requests).2.tables.at? place).isSome →
        ((s.receive request).2.tables.at? place).isSome :=
      fun place hsome => h.isSome_at?_receive hids.1 (hplaces place hsome)
    rw [receiveAll_cons, ih hs hids.2 hrest, hfirst]

/-- **No change.** Requests after which every place is as it was have changed no table, not even
the order of the records. -/
theorem Calm.tables_receiveAll_of_at? (h : s.Calm)
    (hids : ∀ request ∈ requests, request.record.id.isSome)
    (hplaces : ∀ place, (s.receiveAll requests).2.tables.at? place = s.tables.at? place) :
    (s.receiveAll requests).2.tables = s.tables := by
  refine Tables.ext_at? (h.catalog_receiveAll hids) ?_ hplaces
  exact h.outline_receiveAll hids fun place hsome => hplaces place ▸ hsome

end Store

end RecordService
