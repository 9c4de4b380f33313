import RecordService.Proofs.Query.Selection
import RecordService.Proofs.Reading.Limit
import RecordService.Proofs.Store.Frame
import RecordService.Proofs.Store.WellFormed

namespace RecordService

/-!
# Retrieving a record and querying for it

A record can be had in two ways: by its identity, which is looked up in the table of its entity, or
by a query whose criteria compare the identifying attribute of every record with it. The lookup
takes what it finds for a record of that entity, the query asks each record for its own entity. So
both agree as long as every record is in the table of its entity, and nothing that is done to a
store puts it anywhere else.

* `Table.filter_id`: the records with an identity, of which there is one at most.
* `Query.Identifies`: a query for the record of an identity.
* `Query.evaluate_identity`: what it gives is what is found by the identity.
* `Store.Change`, `Store.changeAll`: what is done to a store.
* `Store.Placed`, `Store.placed_changeAll`: every record is in the table of its entity.
* `Store.retrieve_iff_query`: both ways give the same record, or none.
-/

/-! ### The records with an identity -/

/-- No two records have the same identity, and so one at most has a given one. -/
theorem Table.filter_id (t : Table) (id : Uuid) :
    t.records.filter (·.id == some id) = (t.find? id).toList := by
  obtain ⟨records, hnodup⟩ := t
  show records.filter _ = (records.find? _).toList
  induction records with
  | nil => rfl
  | cons r records ih =>
    rw [List.map_cons, List.nodup_cons] at hnodup
    by_cases hid : r.id = some id
    · -- the records that follow have other identities
      have hothers : records.filter (·.id == some id) = [] := by
        rw [List.filter_eq_nil_iff]
        intro other hother heq
        apply hnodup.1
        rw [hid, ← beq_iff_eq.1 heq]
        exact List.mem_map_of_mem hother
      simp [hid, hothers]
    · simp [hid, ih hnodup.2]

/-! ### Queries for an identity -/

namespace Query

/-- A query for the record of an identity: its criteria compare the identifying attribute with it,
and nothing is joined, sorted or cut off. -/
structure Identifies (q : Query) (e : Entity) (id : Uuid) : Prop where
  criteria : q.criteria = .ofConditions [⟨none, e.primaryId, .equal, [.uuid (some id)]⟩]
  links : q.links = []
  orders : q.orders = []
  top : q.top = none
  page : q.page = none

variable {q : Query} {e : Entity} {id : Uuid} {tables : Tables}

/-- The criteria hold on the record that has the identity. -/
theorem Identifies.holds (h : q.Identifies e id) {r : Record}
    (he : tables.catalog.entity? r.entity = some e) :
    (Scope.ofRow tables (.ofRecord r)).holds q.criteria = (r.id == some id) := by
  have hvalue : (Scope.ofRow tables (.ofRecord r)).value none e.primaryId = .uuid r.id :=
    (Scope.value_of_entity? (s := .ofRow tables (.ofRecord r)) he e.primaryId).trans
      (r.valueOf_primaryId e)
  have hmeets : (Scope.ofRow tables (.ofRecord r)).holds q.criteria =
      (Condition.mk none e.primaryId .equal [.uuid (some id)]).holdsFor (.uuid r.id) := by
    simp [h.criteria, Criteria.ofConditions, Scope.holds, Scope.allHold, Scope.meets, hvalue]
  rw [hmeets, Condition.holdsFor]
  cases hid : r.id with
  | none => rfl
  | some other =>
    rw [Bool.eq_iff_iff, beq_iff_eq]
    exact Value.looseEq_uuid_iff

/-- The rows of the query are the record of the identity, if there is one. -/
theorem Identifies.rows (h : q.Identifies e id)
    (hentity : ∀ r ∈ tables.records e.name, tables.catalog.entity? r.entity = some e) :
    q.rows tables e = (tables.find? e.name id).toList.map Row.ofRecord := by
  have hjoined : q.joined tables e = (tables.records e.name).map Row.ofRecord := by
    rw [joined, h.links, Link.extendAll]
  have hselected : q.selected tables e = (tables.find? e.name id).toList.map Row.ofRecord := by
    rw [selected, hjoined, List.filter_map, Tables.find?, ← Table.filter_id]
    congr 1
    apply List.filter_congr
    intro r hr
    exact h.holds (hentity r hr)
  rw [Query.rows, h.top, h.orders, hselected]
  rfl

/-- **Querying for an identity.** What the query gives is the record that is found by the identity,
with the wanted attributes, if there is one. -/
theorem Identifies.evaluate (h : q.Identifies e id)
    (hentity : ∀ r ∈ tables.records e.name, tables.catalog.entity? r.entity = some e) :
    (q.evaluate tables e).records =
      ((tables.find? e.name id).map (·.project (some e) q.columns)).toList := by
  rw [evaluate_unpaged h.page, outputs, h.rows hentity]
  cases hfind : tables.find? e.name id with
  | none => rfl
  | some r =>
    have hmem : r ∈ tables.records e.name := List.mem_of_find?_eq_some hfind
    have houtput : Row.output tables q (.ofRecord r) = r.project (some e) q.columns := by
      rw [Row.output, h.links, ← hentity r hmem]
      rfl
    show [Row.output tables q (.ofRecord r)] = [r.project (some e) q.columns]
    rw [houtput]

end Query

/-! ### What is done to a store -/

namespace Store

/-- A change of a store: a record is kept as it is, or a client sends a command. -/
inductive Change where
  | insert (r : Record)
  | command (c : Command)

/-- The store after a change. -/
def change (s : Store) : Change → Store
  | .insert r => (s.insert r).2
  | .command c => s.perform c

/-- The store after some changes. -/
def changeAll (s : Store) (changes : List Change) : Store :=
  changes.foldl change s

/-- Every record is in the table of its entity. -/
def Placed (s : Store) : Prop :=
  ∀ name, ∀ r ∈ s.tables.records name, Text.lower r.entity = Text.lower name

/-- A store without records has none in the wrong table. -/
theorem placed_ofCatalog (catalog : Catalog) : (ofCatalog catalog).Placed :=
  fun _ _ hr => nomatch hr

/-- Only the tables matter. -/
theorem Placed.of_tables {s s' : Store} (h : s.Placed) (htables : s'.tables = s.tables) :
    s'.Placed := by
  unfold Placed
  rw [htables]
  exact h

/-- A record may be put into the table of its entity. -/
theorem Placed.put {s s' : Store} (h : s.Placed) {name : String} {r : Record}
    (hr : Text.lower r.entity = Text.lower name) (htables : s'.tables = s.tables.put name r) :
    s'.Placed := by
  intro other kept hkept
  rw [htables, Tables.records, Tables.table_put] at hkept
  split at hkept
  · -- in the table that is changed, a record is the new one or an earlier one
    rename_i hsame
    rcases Table.mem_replace hkept with rfl | hold
    · exact hr.trans hsame.symm
    · exact (h name kept hold).trans hsame.symm
  · exact h other kept hkept

/-- A request that is carried out changes a record of the entity that it names. -/
theorem Placed.write {s s' : Store} (h : s.Placed) {request : WriteRequest}
    {response : WriteResponse} (hwrite : s.write request = .ok (response, s')) : s'.Placed := by
  obtain ⟨e, -, -, -, -, rfl⟩ := write_eq_ok.1 hwrite
  have hentity : Text.lower (s.revised e response.id request.record).entity =
      Text.lower e.name := by
    rw [revised, Record.entity_setAll]
    cases hfind : s.tables.find? e.name response.id with
    | none => rfl
    | some old => exact h e.name old (List.mem_of_find?_eq_some hfind)
  exact h.put hentity rfl

/-- A request puts its record into the table of its entity. -/
theorem placed_receive (s : Store) (request : WriteRequest) (h : s.Placed) :
    (s.receive request).2.Placed := by
  have hreceived := received_receive s request
  revert hreceived
  generalize (s.receive request).1 = result
  generalize (s.receive request).2 = s'
  rintro (_ | ⟨-, hwrite⟩ | _)
  · exact h.of_tables rfl
  · exact h.write hwrite
  · exact h

/-- A command leaves every record in the table of its entity. -/
theorem Placed.perform {s : Store} (h : s.Placed) (c : Command) : (s.perform c).Placed := by
  cases c with
  | execute request =>
    obtain ⟨journal, hrun⟩ := runOn_execute ⟨s, []⟩ request
    rw [Store.perform, hrun]
    cases s.callFault with
    | some p => exact h.of_tables rfl
    | none => exact placed_receive _ request (h.of_tables rfl)
  | executeAll requests =>
    obtain ⟨journal, hrun⟩ := runOn_executeAll ⟨s, []⟩ requests
    rw [Store.perform, hrun]
    cases s.callFault with
    | some p => exact h.of_tables rfl
    | none =>
      have hcounted : (s.countBatch requests.length).Placed := h.of_tables rfl
      exact receiveAll_keeps placed_receive hcounted requests
  | refuseRequests fault count => exact h.of_tables rfl
  | refuseCalls fault count => exact h.of_tables rfl
  | reset => exact placed_ofCatalog s.tables.catalog

/-- Every change leaves the records in the tables of their entities. -/
theorem Placed.change {s : Store} (h : s.Placed) (c : Change) : (s.change c).Placed := by
  cases c with
  | insert r =>
    have htables : (s.insert r).2.tables =
        s.tables.put r.entity (r.withId (s.identify r).1) := by
      rw [← tables_identify s r]
      rfl
    exact h.put (r := r.withId (s.identify r).1) rfl htables
  | command c => exact h.perform c

/-- **Places.** Whatever was done to a store, every record is in the table of its entity. -/
theorem placed_changeAll {s : Store} (h : s.Placed) (changes : List Change) :
    (s.changeAll changes).Placed := by
  induction changes generalizing s with
  | nil => exact h
  | cons c changes ih => exact ih (h.change c)

/-- The records of an entity are told by what is declared of it. -/
theorem Placed.entity? {s : Store} (h : s.Placed) {name : String} {e : Entity}
    (he : s.entity name = .ok e) {r : Record} (hr : r ∈ s.tables.records e.name) :
    s.tables.catalog.entity? r.entity = some e := by
  rw [Catalog.entity?_congr (h e.name r hr)]
  exact Catalog.entity?_name (entity_eq_ok.1 he)

/-! ### Both ways -/

/-- **Retrieving and querying.** Whatever was done to a store, a record of a declared entity is
retrieved by its identity with some attributes if and only if it is all that a query for this
identity and these attributes gives, and nothing is retrieved if and only if the query gives
nothing. Neither call fails. -/
theorem retrieve_iff_query (entities : List Entity) (changes : List Change) {w : World Store}
    (hw : w.state = (ofEntities entities).changeAll changes) {q : Query} {e : Entity} {id : Uuid}
    (he : w.state.entity q.entity = .ok e) (hq : q.Identifies e id) :
    ∃ found result,
      ((service.retrieve q.entity id q.columns).runOn w).1 = .ok found ∧
        ((service.query q).runOn w).1 = .ok result ∧
        (∀ r, found = some r ↔ result.records = [r]) ∧ (found = none ↔ result.records = []) := by
  have hplaced : w.state.Placed := hw ▸ placed_changeAll (placed_ofCatalog _) changes
  have hrecords := hq.evaluate fun r hr => hplaced.entity? he hr
  obtain ⟨journal, hquery⟩ := runOn_query w q
  refine ⟨(w.state.tables.find? e.name id).map (·.project (some e) q.columns),
    q.evaluate w.state.tables e, ?_, ?_, ?_, ?_⟩
  · show ((retrieve q.entity id q.columns).runOn w).1 = _
    rw [runOn_retrieve, he]
    rfl
  · show ((query q).runOn w).1 = _
    rw [hquery, he]
    rfl
  · intro r
    rw [hrecords]
    cases (w.state.tables.find? e.name id).map _ <;> simp
  · rw [hrecords]
    cases (w.state.tables.find? e.name id).map _ <;> simp

/-- Accounts have a name. -/
def account : Entity :=
  (Entity.ofName "account").declare (.ofType "name" .string)

/-- An account with an identity and a name. -/
def named (id : Nat) (name : String) : Record :=
  ⟨"Account", some (.numbered id), .ofList [("name", .text (some name))]⟩

/-- An account is kept as it is, and a client changes its name and creates another one. -/
def accountChanges : List Change :=
  [.insert (named 1 "Contoso"), .command (.execute ⟨.update, named 1 "Fabrikam"⟩),
    .command (.executeAll [⟨.create, named 2 "Contoso"⟩])]

/-- The query for the identity and the name of an account. -/
def accountQuery (id : Nat) : Query :=
  { Query.ofEntity "ACCOUNT" with
    columns := .only ["accountid", "Name"]
    criteria := .ofConditions [⟨none, "accountid", .equal, [.uuid (some (.numbered id))]⟩] }

/-- The first account is given either way, under the name that the client gave to it, and its
identity as the attribute that no one has set. -/
theorem retrieve_iff_query_account :
    ∃ w : World Store, w.state = (ofEntities [account]).changeAll accountChanges ∧
      w.state.entity (accountQuery 1).entity = .ok account ∧
      (accountQuery 1).Identifies account (.numbered 1) ∧
      ∃ found result,
        ((service.retrieve (accountQuery 1).entity (.numbered 1) (accountQuery 1).columns).runOn
          w).1 = .ok found ∧
        ((service.query (accountQuery 1)).runOn w).1 = .ok result ∧
        found = some ⟨"Account", some (.numbered 1), .ofList
          [("accountid", .uuid (some (.numbered 1))), ("Name", .text (some "Fabrikam"))]⟩ ∧
        result.records = found.toList := by
  have hw : (World.mk ((ofEntities [account]).changeAll accountChanges) []).state =
      (ofEntities [account]).changeAll accountChanges := rfl
  have he : ((ofEntities [account]).changeAll accountChanges).entity (accountQuery 1).entity =
      .ok account := by decide +kernel
  have hq : (accountQuery 1).Identifies account (.numbered 1) := ⟨rfl, rfl, rfl, rfl, rfl⟩
  obtain ⟨found, result, hretrieve, hquery, hsome, -⟩ :=
    retrieve_iff_query [account] accountChanges hw he hq
  have hfound : found = some ⟨"Account", some (.numbered 1), .ofList
      [("accountid", .uuid (some (.numbered 1))), ("Name", .text (some "Fabrikam"))]⟩ := by
    apply Except.ok.inj (ε := Failure)
    rw [← hretrieve]
    rfl
  refine ⟨_, hw, he, hq, found, result, hretrieve, hquery, hfound, ?_⟩
  rw [hfound]
  exact (hsome _).1 hfound

end Store

end RecordService
