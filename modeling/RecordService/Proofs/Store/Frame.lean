import RecordService.Proofs.Store.Upserts

namespace RecordService

/-!
# The frame of a request

A request that is carried out changes the attributes that it names, of one record. What it does not
name, all other records, the order in which records came and what is declared stay as they are.

* `Table.replace_eq_map`, `Table.replace_eq_append`: a record that is put into a table.
* `Record.get?_setAll_named`, `Record.get?_setAll_unnamed`: attributes that are set, and all others.
* `Store.receive_upsert`: an upsert is an update or a creation.
* `Store.Frame`, `Store.receive_frame`: everything that a request does.
-/

/-! ### A record in its table -/

namespace Table

/-- A record with a new identity comes last. -/
theorem replace_eq_append {r : Record} {records : List Record}
    (h : r.id ∉ records.map Record.id) : replace r records = records ++ [r] := by
  induction records with
  | nil => rfl
  | cons other records ih =>
    rw [List.map_cons, List.mem_cons, not_or] at h
    rw [replace, if_neg (Ne.symm h.1), ih h.2, List.cons_append]

/-- A record with an identity that is there takes the place of the one that has it. -/
theorem replace_eq_map {r : Record} {records : List Record}
    (hnodup : (records.map Record.id).Nodup) (h : r.id ∈ records.map Record.id) :
    replace r records = records.map fun other => if other.id = r.id then r else other := by
  induction records with
  | nil => exact nomatch h
  | cons other records ih =>
    rw [List.map_cons, List.nodup_cons] at hnodup
    rw [List.map_cons, replace]
    by_cases hother : other.id = r.id
    · -- no record after the one that is replaced has its identity
      have hrest : ∀ later ∈ records, (if later.id = r.id then r else later) = later := by
        intro later hlater
        refine if_neg fun hid => hnodup.1 ?_
        exact (hother.trans hid.symm) ▸ List.mem_map_of_mem hlater
      rw [if_pos hother, if_pos hother, List.map_congr_left hrest, List.map_id']
    · have hlater : r.id ∈ records.map Record.id :=
        (List.mem_cons.1 h).resolve_left (Ne.symm hother)
      rw [if_neg hother, if_neg hother, ih hnodup.2 hlater]

/-- A table has an identity exactly if a record is found under it. -/
theorem mem_ids_iff {t : Table} {id : Uuid} :
    some id ∈ t.records.map Record.id ↔ t.find? id ≠ none := by
  rw [find?, Ne, List.find?_eq_none, List.mem_map]
  simp

end Table

namespace Tables

/-- Case makes no difference to which table a name stands for. -/
theorem table_congr (ts : Tables) {m n : String} (h : Text.lower m = Text.lower n) :
    ts.table m = ts.table n := by
  rw [table, table, h]

/-- Case makes no difference to which record is found under a name and an identity. -/
theorem find?_congr (ts : Tables) {m n : String} (h : Text.lower m = Text.lower n) (id : Uuid) :
    ts.find? m id = ts.find? n id := by
  rw [find?, find?, ts.table_congr h]

/-- The table that a record is put into, and all others. -/
theorem table_put (ts : Tables) (entity other : String) (r : Record) :
    (ts.put entity r).table other =
      if Text.lower other = Text.lower entity then (ts.table entity).put r else ts.table other := by
  unfold table put
  dsimp only
  rw [Dict.get?_insert]
  split
  · rfl
  · rfl

/-- The records of an entity after one of them was put. -/
theorem records_put (ts : Tables) (entity : String) {r : Record} {id : Uuid}
    (hid : r.id = some id) :
    (ts.put entity r).records entity =
      if (ts.find? entity id).isNone then ts.records entity ++ [r]
      else (ts.records entity).map fun other => if other.id = r.id then r else other := by
  rw [records, table_put, if_pos rfl]
  show Table.replace r (ts.table entity).records = _
  cases hfind : (ts.table entity).find? id with
  | none =>
    rw [find?, hfind, Option.isNone_none, if_pos rfl]
    refine Table.replace_eq_append fun hmem => ?_
    rw [hid] at hmem
    exact Table.mem_ids_iff.1 hmem hfind
  | some old =>
    rw [find?, hfind, Option.isNone_some, if_neg Bool.false_ne_true]
    refine Table.replace_eq_map (ts.table entity).nodup ?_
    rw [hid]
    exact Table.mem_ids_iff.2 (hfind ▸ Option.some_ne_none old)

end Tables

/-! ### Attributes that are set -/

namespace Record

/-- The value of an attribute after others were set is the last one that was set, or else the old
one. -/
theorem get?_setAll (r : Record) (e : Entity) (entries : List (String × Value)) (name : String) :
    (r.setAll e entries).attributes.get? name =
      ((entries.map fun entry => (e.spelling entry.1, entry.2)).reverse.lookup name).or
        (r.attributes.get? name) := by
  rw [setAll_eq]
  exact Dict.get?_insertAll _ _ _

/-- A declared attribute gets the last value that is given to any spelling of its name. -/
theorem get?_setAll_named (r : Record) {e : Entity} {before after : List (String × Value)}
    {name : String} {v : Value} {a : Attribute} (ha : e.attribute? name = some a)
    (hafter : ∀ entry ∈ after, Text.eqIgnoreCase entry.1 name = false) :
    (r.setAll e (before ++ (name, v) :: after)).attributes.get? a.name = some v := by
  have hlater : (after.map fun entry => (e.spelling entry.1, entry.2)).reverse.lookup a.name =
      none := by
    rw [List.lookup_eq_none_iff]
    intro written hwritten
    obtain ⟨entry, hentry, rfl⟩ := List.mem_map.1 (List.mem_reverse.1 hwritten)
    refine bne_iff_ne.2 fun (heq : a.name = e.spelling entry.1) => ?_
    -- a later name of the same spelling would be the same name
    have hsame : Text.eqIgnoreCase entry.1 name = true := by
      have hspelling := e.eqIgnoreCase_spelling entry.1
      rw [Text.eqIgnoreCase_comm, ← heq] at hspelling
      exact Text.eqIgnoreCase_trans hspelling (Entity.eqIgnoreCase_of_attribute? ha)
    exact Bool.false_ne_true ((hafter entry hentry).symm.trans hsame)
  rw [get?_setAll, List.map_append, List.map_cons, List.reverse_append, List.reverse_cons,
    List.append_assoc, List.lookup_append, hlater, Entity.spelling_of_attribute? ha]
  simp

/-- Attributes that are not set keep their values. -/
theorem get?_setAll_unnamed (r : Record) {e : Entity} {entries : List (String × Value)}
    {name : String} (h : ∀ entry ∈ entries, e.spelling entry.1 ≠ name) :
    (r.setAll e entries).attributes.get? name = r.attributes.get? name := by
  have hnone : (entries.map fun entry => (e.spelling entry.1, entry.2)).reverse.lookup name =
      none := by
    rw [List.lookup_eq_none_iff]
    intro written hwritten
    obtain ⟨entry, hentry, rfl⟩ := List.mem_map.1 (List.mem_reverse.1 hwritten)
    exact bne_iff_ne.2 (Ne.symm (h entry hentry))
  rw [get?_setAll, hnone, Option.none_or]

end Record

namespace Store

variable {s s' : Store} {request : WriteRequest} {response : WriteResponse} {e : Entity}

/-! ### Upserts -/

/-- Whether a store has a record with the identity of another one. -/
def has (s : Store) (r : Record) : Bool :=
  (r.id.bind (s.tables.find? r.entity)).isSome

/-- A record is there for a request exactly if the store has one of that entity and identity. -/
theorem isSome_existing? {r : Record} (hname : Text.lower e.name = Text.lower r.entity) :
    (s.existing? e r).isSome = s.has r := by
  have hfind : s.tables.find? e.name = s.tables.find? r.entity :=
    funext (s.tables.find?_congr hname)
  rw [existing?, has, hfind]

/-- An upsert is an update where the record exists, and a creation where it does not. -/
theorem receive_upsert (s : Store) (r : Record) :
    s.receive ⟨.upsert, r⟩ = s.receive ⟨if s.has r then .update else .create, r⟩ := by
  have hwrite : s.write ⟨.upsert, r⟩ = s.write ⟨if s.has r then .update else .create, r⟩ := by
    unfold write
    dsimp only
    cases he : s.entity r.entity with
    | error fault => rfl
    | ok e =>
      have hname := Catalog.lower_of_entity? (entity_eq_ok.1 he)
      -- neither operation is refused for what exists
      have hexists : s.checkExistence e ⟨.upsert, r⟩ =
          s.checkExistence e ⟨if s.has r then .update else .create, r⟩ := by
        rw [← isSome_existing? hname, checkExistence, checkExistence]
        dsimp only
        cases s.existing? e r <;> rfl
      simp only [bind, Except.bind, hexists]
  rw [receive, receive, hwrite]

/-! ### The frame -/

/-- What a request does that is carried out: `e` is its entity, and `r` the record that it leaves
behind. -/
structure Frame (s : Store) (request : WriteRequest) (e : Entity) (r : Record)
    (response : WriteResponse) (s' : Store) : Prop where
  /-- The record has the identity of the request, or else a new one. -/
  id : response.id = request.record.id.getD (.numbered (s.issued + 1))
  /-- It is created if there was none with this identity. -/
  created : response.created = true ↔ s.tables.find? e.name response.id = none
  /-- It is kept under its identity. -/
  kept : s'.tables.find? e.name response.id = some r ∧ r.id = some response.id
  /-- It is of the entity that it was of before. -/
  entity : r.entity = ((s.tables.find? e.name response.id).map Record.entity).getD e.name
  /-- An attribute that the request names in any case has the last value that is given to it. -/
  named : ∀ before name v after,
    request.record.attributes.entries = before ++ (name, v) :: after →
      (∀ entry ∈ after, Text.eqIgnoreCase entry.1 name = false) →
        ∃ a, e.attribute? name = some a ∧ r.attributes.get? a.name = some v
  /-- All other attributes are as they were. -/
  unnamed : ∀ name,
    (∀ entry ∈ request.record.attributes.entries, ∀ a, e.attribute? entry.1 = some a →
      a.name ≠ name) →
        r.attributes.get? name =
          (s.tables.find? e.name response.id).bind (·.attributes.get? name)
  /-- All other records of the entity are as they were, and in their order. -/
  records : s'.tables.records e.name =
    if response.created then s.tables.records e.name ++ [r]
    else (s.tables.records e.name).map fun other => if other.id = r.id then r else other
  /-- All other tables are as they were. -/
  tables : ∀ entity, Text.lower entity ≠ Text.lower e.name →
    s'.tables.table entity = s.tables.table entity
  /-- The declarations are as they were. -/
  catalog : s'.tables.catalog = s.tables.catalog
  /-- So is everything else, but for the number of identities that were given out. -/
  rest : s' = { s with
    tables := s'.tables
    issued := s.issued + if request.record.id.isNone then 1 else 0 }

/-- The identity of a record, and what is counted of it. -/
theorem identify_eq (s : Store) (r : Record) :
    s.identify r = (r.id.getD (.numbered (s.issued + 1)),
      { s with issued := s.issued + if r.id.isNone then 1 else 0 }) := by
  rw [identify]
  cases r.id <;> rfl

/-- The record that is kept under the identity of a request is the one that it is about. -/
theorem existing?_eq_find? {r : Record} {id : Uuid}
    (hname : Text.lower e.name = Text.lower r.entity)
    (hid : id = r.id.getD (.numbered (s.issued + 1)))
    (hfresh : r.id = none → s.tables.find? r.entity (.numbered (s.issued + 1)) = none) :
    s.existing? e r = s.tables.find? e.name id := by
  subst hid
  rw [existing?]
  cases hr : r.id with
  | none =>
    rw [Option.getD_none, s.tables.find?_congr hname, hfresh hr]
    rfl
  | some id => rfl

/-- The entity of the record that a request leaves behind. -/
theorem entity_revised (s : Store) (e : Entity) (id : Uuid) (r : Record) :
    (s.revised e id r).entity = ((s.tables.find? e.name id).map Record.entity).getD e.name := by
  rw [revised, Record.entity_setAll]
  cases s.tables.find? e.name id <;> rfl

/-- A request that is carried out has its frame. -/
theorem frame_of_write (hwrite : s.write request = .ok (response, s'))
    (hfresh : request.record.id = none →
      s.tables.find? request.record.entity (.numbered (s.issued + 1)) = none) :
    ∃ e r, s.entity request.record.entity = .ok e ∧ s.Frame request e r response s' := by
  obtain ⟨e, he, -, hcheck, hresponse, hafter⟩ := write_eq_ok.1 hwrite
  have hname := Catalog.lower_of_entity? (entity_eq_ok.1 he)
  have hid : response.id = request.record.id.getD (.numbered (s.issued + 1)) := by
    rw [hresponse, identify_eq]
  have hcreated : response.created = (s.tables.find? e.name response.id).isNone := by
    rw [← existing?_eq_find? hname hid hfresh, hresponse]
  have htables : s'.tables =
      s.tables.put e.name (s.revised e response.id request.record) := by rw [hafter]
  refine ⟨e, s.revised e response.id request.record, he, ?_⟩
  exact {
    id := hid
    created := by rw [hcreated, Option.isNone_iff_eq_none]
    kept := by
      refine ⟨?_, id_revised _ _ _ _⟩
      rw [htables, Tables.find?_eq_at?, Tables.at?_put, id_revised, if_pos rfl]
    entity := entity_revised _ _ _ _
    named := by
      intro before name v after hentries hlast
      have hmem : (name, v) ∈ request.record.attributes.entries := by simp [hentries]
      obtain ⟨a, ha, -, -⟩ := Entity.checkValue_eq_ok.1 (Entity.check_eq_ok.1 hcheck _ hmem)
      refine ⟨a, ha, ?_⟩
      rw [revised, hentries]
      exact Record.get?_setAll_named _ ha hlast
    unnamed := by
      intro name hother
      have hspelling : ∀ entry ∈ request.record.attributes.entries,
          e.spelling entry.1 ≠ name := by
        intro entry hentry
        obtain ⟨a, ha, -, -⟩ := Entity.checkValue_eq_ok.1 (Entity.check_eq_ok.1 hcheck _ hentry)
        rw [Entity.spelling_of_attribute? ha]
        exact hother entry hentry a ha
      rw [revised, Record.get?_setAll_unnamed _ hspelling]
      -- a new record has no attributes
      cases s.tables.find? e.name response.id <;> rfl
    records := by rw [htables, Tables.records_put _ _ (id_revised _ _ _ _), hcreated]
    tables := by
      intro entity hother
      rw [htables, Tables.table_put, if_neg hother]
    catalog := by rw [htables]; rfl
    rest := by rw [hafter, identify_eq] }

/-- **Frame.** A request that is carried out, where a record without identity gets one that no
record of its entity has, does what the frame says and nothing else: it changes the attributes that
it names, of the one record under the identity that it answers. An upsert does what an update does
where the record exists, and what a creation does where it does not, with the same answer. -/
theorem receive_frame (s : Store) :
    (∀ request response s', s.receive request = (.ok response, s') →
      (request.record.id = none →
        s.tables.find? request.record.entity (.numbered (s.issued + 1)) = none) →
          ∃ e r, s.entity request.record.entity = .ok e ∧ s.Frame request e r response s') ∧
      ∀ r, s.receive ⟨.upsert, r⟩ = s.receive ⟨if s.has r then .update else .create, r⟩ := by
  refine ⟨fun request response s' hreceive hfresh => ?_, s.receive_upsert⟩
  have hreceived := received_receive s request
  rw [hreceive] at hreceived
  cases hreceived with
  | done _ hwrite => exact frame_of_write hwrite hfresh

/-- A store for notes, with one that has a rank and a title. -/
def ranked : Store :=
  ((ofEntities [((Entity.ofName "note").declare (.ofType "rank" .integer)).declare
      (.ofType "title" .string)]).insert
    ⟨"note", none, .ofList [("rank", .int32 (some 1)), ("title", .text (some "Draft"))]⟩).2

/-- A note for which two ranks are given, with the name in two spellings. -/
def rankTwice (id : Option Uuid) : Record :=
  ⟨"Note", id, .ofList [("RANK", .int32 (some 2)), ("rank", .int32 (some 3))]⟩

/-- A note without identity is added with the rank that is given last, and nothing else. As an
upsert of the note that is there, the request updates it. -/
theorem receive_frame_ranked :
    ∃ response s' e r, ranked.receive ⟨.create, rankTwice none⟩ = (.ok response, s') ∧
      ranked.entity "Note" = .ok e ∧ ranked.Frame ⟨.create, rankTwice none⟩ e r response s' ∧
      response = ⟨.numbered 2, true⟩ ∧ r.attributes.get? "rank" = some (.int32 (some 3)) ∧
      r.attributes.get? "title" = none ∧
      ranked.receive ⟨.upsert, rankTwice (some (.numbered 1))⟩ =
        ranked.receive ⟨.update, rankTwice (some (.numbered 1))⟩ := by
  obtain ⟨hframe, hupsert⟩ := receive_frame ranked
  obtain ⟨e, r, he, hr⟩ := hframe ⟨.create, rankTwice none⟩ _ _ rfl (fun _ => by decide +kernel)
  have hkept := hr.kept.1
  obtain rfl := Except.ok.inj he
  obtain rfl := Option.some.inj hkept
  exact ⟨_, _, _, _, rfl, he, hr, rfl, rfl, rfl, hupsert _⟩

end Store

end RecordService
