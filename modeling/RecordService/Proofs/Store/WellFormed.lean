import RecordService.Proofs.Store.Calls

namespace RecordService

/-!
# Well-formed stores

Clients send requests with any spelling of entities and attributes, alone and in batches, and some
of them are refused. Whatever they send, a store that started without records keeps every record
where it is looked for, under the declared names and with values of the declared types.

* `Record.Conforms`: what holds of a kept record.
* `Store.WellFormed`: what holds of a store.
* `Store.wellFormed_receive`: a single request keeps it.
* `Store.Command`, `Store.wellFormed_performAll`: so do all sequences of calls.
-/

/-! ### Records -/

/-- The values of an attribute: null, values of the kind of its type, and dates where the type is
that of timestamps. -/
def Attribute.Suits (a : Attribute) (v : Value) : Prop :=
  v = .null ∨ (v.kind = .date ∧ a.type = .dateTime) ∨ v.kind = a.type.kind

/-- A value that an attribute accepts suits it. -/
theorem Attribute.suits_of_accepts {a : Attribute} {v : Value} (h : a.accepts v = true) :
    a.Suits v := by
  cases v with
  | null => exact .inl rfl
  | date d => exact .inr (.inl ⟨rfl, beq_iff_eq.1 h⟩)
  | _ => exact .inr (.inr (beq_iff_eq.1 h))

namespace Record

/-- What holds of a record that is kept in the table of a name: it is of that entity, and its
attributes have declared names, in the declared spelling, and suitable values. -/
structure Conforms (catalog : Catalog) (key : String) (r : Record) : Prop where
  entity : Text.lower r.entity = key
  attributes : ∀ entry ∈ r.attributes.entries, ∃ e a,
    catalog.entity? r.entity = some e ∧ e.attribute? entry.1 = some a ∧ a.name = entry.1 ∧
      a.Suits entry.2

/-- No two attributes of a record have names that differ in case only. -/
theorem Conforms.name_injective {catalog : Catalog} {key : String} {r : Record}
    (h : r.Conforms catalog key) {m n : String} (hm : m ∈ r.attributes.names)
    (hn : n ∈ r.attributes.names) (heq : Text.eqIgnoreCase m n = true) : m = n := by
  obtain ⟨x, hx, rfl⟩ := List.mem_map.1 hm
  obtain ⟨y, hy, rfl⟩ := List.mem_map.1 hn
  obtain ⟨e, a, he, ha, hname, -⟩ := h.attributes x hx
  obtain ⟨e', a', he', ha', hname', -⟩ := h.attributes y hy
  -- both names find the same attribute
  cases he.symm.trans he'
  rw [Entity.attribute?_congr heq] at ha
  cases ha.symm.trans ha'
  exact hname.symm.trans hname'

/-- A new record conforms. -/
theorem conforms_new (catalog : Catalog) (e : Entity) (id : Uuid) :
    ((Record.ofEntity e.name).withId id).Conforms catalog (Text.lower e.name) :=
  ⟨rfl, fun _ hentry => nomatch hentry⟩

/-- A record conforms after attributes that may be written have been set. -/
theorem Conforms.setAll {catalog : Catalog} {r other : Record} {e : Entity} {creating : Bool}
    (h : r.Conforms catalog (Text.lower e.name)) (he : catalog.entity? e.name = some e)
    (hcheck : e.check creating other = .ok ()) :
    (r.setAll e other.attributes.entries).Conforms catalog (Text.lower e.name) := by
  refine ⟨by rw [entity_setAll, h.entity], fun entry hentry => ?_⟩
  rw [entity_setAll]
  rcases mem_setAll hentry with hold | ⟨x, hx, rfl⟩
  · exact h.attributes entry hold
  · obtain ⟨a, ha, -, haccepts⟩ :=
      Entity.checkValue_eq_ok.1 (Entity.check_eq_ok.1 hcheck x hx)
    rw [Entity.spelling_of_attribute? ha]
    refine ⟨e, a, ?_, Entity.attribute?_name ha, rfl, Attribute.suits_of_accepts haccepts⟩
    rw [Catalog.entity?_congr h.entity, he]

end Record

/-! ### Stores -/

namespace Store

/-- What holds of a store with some declared entities, between the calls of its clients. -/
structure WellFormed (catalog : Catalog) (s : Store) : Prop where
  /-- The declarations stay as they were made. -/
  declared : s.tables.catalog = catalog
  /-- Every record conforms, and is kept under its identity. -/
  records : ∀ entry ∈ s.tables.byName.entries, ∀ r ∈ entry.2.records,
    r.Conforms catalog entry.1 ∧ ∃ id, r.id = some id ∧ entry.2.find? id = some r
  /-- A fault that is pending is due at least once. -/
  requestFault : ∀ p, s.requestFault = some p → 0 < p.count
  callFault : ∀ p, s.callFault = some p → 0 < p.count

/-- A fault that is pending is due at least once. -/
theorem count_pos_of_times {fault : Fault} {count : Nat} {p : PendingFault}
    (h : PendingFault.times fault count = some p) : 0 < p.count := by
  unfold PendingFault.times at h
  split at h
  · exact nomatch h
  · rename_i hcount
    cases h
    exact Nat.pos_of_ne_zero hcount

/-- A store without records is well formed, whatever is declared. -/
theorem wellFormed_ofCatalog (catalog : Catalog) : (ofCatalog catalog).WellFormed catalog :=
  ⟨rfl, (fun _ hentry => nomatch hentry), nofun, nofun⟩

/-- The records of an entity conform. -/
theorem WellFormed.conforms_of_mem {catalog : Catalog} {s : Store} (h : s.WellFormed catalog)
    {entity : String} {r : Record} (hr : r ∈ s.tables.records entity) :
    r.Conforms catalog (Text.lower entity) ∧ ∃ id, r.id = some id := by
  unfold Tables.records Tables.table at hr
  cases htable : s.tables.byName.get? (Text.lower entity) with
  | none => rw [htable] at hr; exact nomatch hr
  | some t =>
    rw [htable] at hr
    obtain ⟨hconforms, id, hid, -⟩ := h.records _ (Dict.mem_entries_of_get? htable) r hr
    exact ⟨hconforms, id, hid⟩

/-- The kept record of an identity conforms. -/
theorem WellFormed.conforms_of_find? {catalog : Catalog} {s : Store} (h : s.WellFormed catalog)
    {entity : String} {id : Uuid} {r : Record} (hr : s.tables.find? entity id = some r) :
    r.Conforms catalog (Text.lower entity) := by
  unfold Tables.find? Table.find? at hr
  exact (h.conforms_of_mem (List.mem_of_find?_eq_some hr)).1

/-- A record that conforms may be put under its identity. -/
theorem WellFormed.put {catalog : Catalog} {s : Store} (h : s.WellFormed catalog)
    {entity : String} {id : Uuid} {r : Record} (hr : r.Conforms catalog (Text.lower entity))
    (hid : r.id = some id) : { s with tables := s.tables.put entity r }.WellFormed catalog := by
  refine ⟨h.declared, fun entry hentry other hother => ?_, h.requestFault, h.callFault⟩
  rcases Dict.mem_put hentry with rfl | hold
  · -- in the table that is changed, a record is the new one or an earlier one
    rcases Table.mem_replace hother with rfl | hkept
    · exact ⟨hr, id, hid, Table.find?_of_mem hother hid⟩
    · obtain ⟨hconforms, other_id, hother_id⟩ := h.conforms_of_mem hkept
      exact ⟨hconforms, other_id, hother_id, Table.find?_of_mem hother hother_id⟩
  · exact h.records entry hold other hother

/-- The record that a request leaves behind conforms, whether it was kept before or is new. -/
theorem WellFormed.conforms_revised {catalog : Catalog} {s : Store} (h : s.WellFormed catalog)
    {e : Entity} (he : catalog.entity? e.name = some e) {r : Record} {creating : Bool}
    (hcheck : e.check creating r = .ok ()) (id : Uuid) :
    (s.revised e id r).Conforms catalog (Text.lower e.name) := by
  unfold revised
  cases hfind : s.tables.find? e.name id with
  | none => exact (Record.conforms_new catalog e id).setAll he hcheck
  | some old => exact (h.conforms_of_find? hfind).setAll he hcheck

/-- A request that is carried out keeps a store well formed. -/
theorem WellFormed.write {catalog : Catalog} {s s' : Store} (h : s.WellFormed catalog)
    {request : WriteRequest} {response : WriteResponse}
    (hwrite : s.write request = .ok (response, s')) : s'.WellFormed catalog := by
  obtain ⟨e, he, -, hcheck, -, rfl⟩ := write_eq_ok.1 hwrite
  have hdeclared : catalog.entity? e.name = some e := by
    rw [← h.declared]
    exact Catalog.entity?_name (entity_eq_ok.1 he)
  have hput := h.put (h.conforms_revised hdeclared hcheck response.id) (id_revised s e _ _)
  -- giving out an identity touches neither the tables nor the pending faults
  exact ⟨hput.declared, hput.records, by simpa using h.requestFault, by simpa using h.callFault⟩

/-- What is left of a pending fault is due at least once. -/
theorem count_pos_of_rest {p q : PendingFault} (h : p.rest = some q) : 0 < q.count :=
  count_pos_of_times h

/-- A request that arrives keeps a store well formed, whatever becomes of it. -/
theorem WellFormed.received {catalog : Catalog} {s s' : Store} (h : s.WellFormed catalog)
    {request : WriteRequest} {result : Except Fault WriteResponse}
    (hreceived : s.Received request result s') : s'.WellFormed catalog := by
  cases hreceived with
  | due => exact ⟨h.declared, h.records, fun _ => count_pos_of_rest, h.callFault⟩
  | done _ hwrite => exact h.write hwrite
  | refused => exact h

/-- A request leaves a store well formed, whatever becomes of it. -/
theorem wellFormed_receive {catalog : Catalog} (s : Store) (request : WriteRequest)
    (h : s.WellFormed catalog) : (s.receive request).2.WellFormed catalog :=
  h.received (received_receive s request)

/-! ### Sequences of calls -/

/-- What a client does to a store. -/
inductive Command where
  | execute (request : WriteRequest)
  | executeAll (requests : List WriteRequest)
  | refuseRequests (fault : Fault) (count : Nat)
  | refuseCalls (fault : Fault) (count : Nat)
  | reset

/-- The store after a command. -/
def perform (s : Store) : Command → Store
  | .execute request => ((execute request).runOn ⟨s, []⟩).2.state
  | .executeAll requests => ((executeAll requests).runOn ⟨s, []⟩).2.state
  | .refuseRequests fault count => s.refuseRequests fault count
  | .refuseCalls fault count => s.refuseCalls fault count
  | .reset => s.reset

/-- The store after some commands. -/
def performAll (s : Store) (commands : List Command) : Store :=
  commands.foldl perform s

/-- A call that is answered by a pending fault changes nothing else. -/
theorem WellFormed.refusedCall {catalog : Catalog} {s : Store} (h : s.WellFormed catalog)
    (p : PendingFault) : { s with callFault := p.rest }.WellFormed catalog :=
  ⟨h.declared, h.records, h.requestFault, fun _ => count_pos_of_rest⟩

/-- Counting a call changes nothing else. -/
theorem WellFormed.count {catalog : Catalog} {s : Store} (h : s.WellFormed catalog)
    (f : CallCounts → CallCounts) : (s.count f).WellFormed catalog :=
  ⟨h.declared, h.records, h.requestFault, h.callFault⟩

/-- Every command keeps a store well formed. -/
theorem wellFormed_perform {catalog : Catalog} {s : Store} (h : s.WellFormed catalog)
    (c : Command) : (s.perform c).WellFormed catalog := by
  cases c with
  | execute request =>
    obtain ⟨journal, hrun⟩ := runOn_execute ⟨s, []⟩ request
    rw [perform, hrun]
    cases s.callFault with
    | some p => exact (h.count _).refusedCall p
    | none => exact wellFormed_receive _ request (h.count _)
  | executeAll requests =>
    obtain ⟨journal, hrun⟩ := runOn_executeAll ⟨s, []⟩ requests
    rw [perform, hrun]
    cases s.callFault with
    | some p => exact (h.count _).refusedCall p
    | none => exact receiveAll_keeps wellFormed_receive (h.count _) requests
  | refuseRequests fault count =>
    exact ⟨h.declared, h.records, fun _ => count_pos_of_times, h.callFault⟩
  | refuseCalls fault count =>
    exact ⟨h.declared, h.records, h.requestFault, fun _ => count_pos_of_times⟩
  | reset => exact ⟨h.declared, (fun _ hentry => nomatch hentry), nofun, nofun⟩

/-- Commands, whichever and however many, leave a store well formed. -/
theorem WellFormed.performAll {catalog : Catalog} {s : Store} (h : s.WellFormed catalog)
    (commands : List Command) : (s.performAll commands).WellFormed catalog := by
  induction commands generalizing s with
  | nil => exact h
  | cons c commands ih => exact ih (wellFormed_perform h c)

/-- **Invariant of a store.** After any sequence of calls by clients, a store that was made for
some entities is well formed: every record is kept under its identity in the table of its entity,
its attributes have declared names and suitable values, and pending faults are due at least once.
No two attributes of a record have names that differ in case only. -/
theorem wellFormed_performAll (entities : List Entity) (commands : List Command) :
    ((ofEntities entities).performAll commands).WellFormed (ofEntities entities).tables.catalog ∧
      ∀ entry ∈ ((ofEntities entities).performAll commands).tables.byName.entries,
        ∀ r ∈ entry.2.records, ∀ m ∈ r.attributes.names, ∀ n ∈ r.attributes.names,
          Text.eqIgnoreCase m n = true → m = n := by
  have h : ((ofEntities entities).performAll commands).WellFormed
      (ofEntities entities).tables.catalog := (wellFormed_ofCatalog _).performAll commands
  exact ⟨h, fun entry hentry r hr m hm n hn => (h.records entry hentry r hr).1.name_injective hm hn⟩

end Store

end RecordService
