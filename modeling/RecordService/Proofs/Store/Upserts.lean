import RecordService.Proofs.Store.Places

namespace RecordService

/-!
# Upserts that come again

An upsert that created its record is an update when it comes again, and then it may be refused for
an attribute that is valid for create only. What it has set before is there nevertheless, so that
the same upserts, one after the other, leave the tables as they left them the first time.

* `Record.setAll_again`: attributes that were set last may be set once more.
* `Entity.upsertAll`: what upserts make of the record in their place.
* `Entity.upsertAll_again`: what they make of it when they come again.
* `Store.Calm.executeAll_again`: batches of upserts that are sent twice.
-/

/-! ### Attributes that are set again -/

namespace Record

/-- Setting attributes changes the attributes only. -/
theorem setAll_eq (r : Record) (e : Entity) (entries : List (String × Value)) :
    r.setAll e entries =
      { r with attributes :=
          r.attributes.insertAll (entries.map fun entry => (e.spelling entry.1, entry.2)) } := by
  unfold setAll
  induction entries generalizing r with
  | nil => rfl
  | cons entry entries ih =>
    rw [List.foldl_cons, ih, List.map_cons, Dict.insertAll_cons]
    rfl

/-- Setting values in two parts is setting them all at once. -/
theorem setAll_append (r : Record) (e : Entity) (as bs : List (String × Value)) :
    r.setAll e (as ++ bs) = (r.setAll e as).setAll e bs := by
  unfold setAll
  exact List.foldl_append

/-- Attributes that were set last may be set once more. -/
theorem setAll_again (r : Record) (e : Entity) (entries : List (String × Value)) :
    (r.setAll e entries).setAll e entries = r.setAll e entries := by
  rw [setAll_eq r, setAll_eq]
  dsimp only
  rw [Dict.insertAll_again]

/-- The attributes that were set after others may be set once more. -/
theorem setAll_append_again (r : Record) (e : Entity) (as bs : List (String × Value)) :
    (r.setAll e (as ++ bs)).setAll e bs = r.setAll e (as ++ bs) := by
  rw [setAll_append, setAll_again]

end Record

/-! ### Upserts in one place -/

namespace Entity

/-- Whether the attributes of a record may be written. -/
def permits (e : Entity) (creating : Bool) (r : Record) : Bool :=
  (e.check creating r).isOk

/-- What is permitted is what passes the check. -/
theorem permits_iff {e : Entity} {creating : Bool} {r : Record} :
    e.permits creating r = true ↔ e.check creating r = .ok () := by
  unfold permits
  cases e.check creating r with
  | error fault => exact ⟨nofun, nofun⟩
  | ok u => exact ⟨fun _ => rfl, fun _ => rfl⟩

/-- Whether a record may be created with all the attributes that it can be changed in. -/
def Creatable (e : Entity) : Prop :=
  ∀ a ∈ e.attributes, a.validForUpdate = true → a.validForCreate = true

/-- What may be written to a record may then be written to a new one. -/
theorem Creatable.permits {e : Entity} (he : e.Creatable) {r : Record}
    (h : e.permits false r = true) : e.permits true r = true := by
  rw [permits_iff, check_eq_ok] at h ⊢
  intro entry hentry
  obtain ⟨a, ha, hwritable, haccepts⟩ := checkValue_eq_ok.1 (h entry hentry)
  have hmem : a ∈ e.attributes := List.mem_of_find?_eq_some ha
  exact checkValue_eq_ok.2 ⟨a, ha, he a hmem hwritable, haccepts⟩

/-- What an upsert makes of the record in its place: the attributes are set, on a new record where
there was none, unless some of them may not be written. -/
def upsert (e : Entity) (id : Uuid) (old : Option Record) (r : Record) : Option Record :=
  if e.permits old.isNone r then
    some ((old.getD ((Record.ofEntity e.name).withId id)).setAll e r.attributes.entries)
  else old

/-- What upserts make of the record in their place. -/
def upsertAll (e : Entity) (id : Uuid) (old : Option Record) (rs : List Record) : Option Record :=
  rs.foldl (e.upsert id) old

/-- The attributes that upserts set on a record that exists. -/
def updates (e : Entity) (rs : List Record) : List (String × Value) :=
  (rs.filter (e.permits false)).flatMap fun r => r.attributes.entries

/-- An update writes the attributes of its record if they are permitted, before those of later
updates. -/
theorem updates_cons (e : Entity) (r : Record) (rs : List Record) :
    e.updates (r :: rs) =
      (if e.permits false r then r.attributes.entries else []) ++ e.updates rs := by
  unfold updates
  by_cases h : e.permits false r = true <;> simp [h]

/-- On a record that exists, upserts are updates. -/
theorem upsertAll_some (e : Entity) (id : Uuid) (old : Record) (rs : List Record) :
    e.upsertAll id (some old) rs = some (old.setAll e (e.updates rs)) := by
  unfold upsertAll
  induction rs generalizing old with
  | nil => rfl
  | cons r rs ih =>
    rw [List.foldl_cons, updates_cons, Record.setAll_append]
    by_cases h : e.permits false r = true
    · have hfirst : e.upsert id (some old) r = some (old.setAll e r.attributes.entries) := by
        simp [upsert, h]
      rw [hfirst, ih, if_pos h]
    · have hfirst : e.upsert id (some old) r = some old := by simp [upsert, h]
      rw [hfirst, ih, if_neg h]
      rfl

/-- **Idempotence.** When all upserts of a record come again, they leave it as it is. -/
theorem upsertAll_again {e : Entity} (he : e.Creatable) (id : Uuid) (old : Option Record)
    (rs : List Record) :
    e.upsertAll id (e.upsertAll id old rs) rs = e.upsertAll id old rs := by
  cases old with
  | some old => rw [upsertAll_some, upsertAll_some, Record.setAll_again]
  | none =>
    induction rs with
    | nil => rfl
    | cons r rs ih =>
      by_cases hcreate : e.permits true r = true
      · -- the record is created; the same attributes and those that follow are set once more,
        -- or only those that follow
        have hfirst : e.upsertAll id none (r :: rs) =
            some (((Record.ofEntity e.name).withId id).setAll e
              (r.attributes.entries ++ e.updates rs)) := by
          have hnew : e.upsert id none r =
              some (((Record.ofEntity e.name).withId id).setAll e r.attributes.entries) := by
            simp [upsert, hcreate]
          rw [upsertAll, List.foldl_cons, hnew, ← upsertAll, upsertAll_some, Record.setAll_append]
        rw [hfirst, upsertAll_some, updates_cons]
        by_cases hupdate : e.permits false r = true
        · rw [if_pos hupdate, Record.setAll_again]
        · rw [if_neg hupdate, List.nil_append, Record.setAll_append_again]
      · -- the first one is refused, both times
        have hupdate : ¬ e.permits false r = true := fun h => hcreate (he.permits h)
        have hskip : ∀ kept, e.upsertAll id kept (r :: rs) = e.upsertAll id kept rs := by
          intro kept
          have hrefused : e.upsert id kept r = kept := by
            cases kept <;> simp [upsert, hcreate, hupdate]
          rw [upsertAll, List.foldl_cons, hrefused, upsertAll]
        rw [hskip, hskip, ih]

end Entity

/-! ### Upserts to a store -/

namespace Store

/-- What an upsert leaves in its place. -/
theorem leaves_upsert {s : Store} {request : WriteRequest} {id : Uuid} {e : Entity}
    (hupsert : request.operation = .upsert) (hid : request.record.id = some id)
    (he : s.entity request.record.entity = .ok e) :
    s.leaves request id = e.upsert id (s.tables.at? request.place) request.record := by
  have hname := Catalog.lower_of_entity? (entity_eq_ok.1 he)
  have hexisting := existing?_eq_at? (s := s) hname hid
  have hexists : s.checkExistence e request = .ok () := by
    unfold checkExistence
    rw [hupsert]
  unfold leaves Entity.upsert
  by_cases h : e.permits (s.tables.at? request.place).isNone request.record = true
  · have hcheck := Entity.permits_iff.1 h
    rw [← hexisting] at hcheck
    rw [grant_eq_ok.2 ⟨he, hexists, hcheck⟩, if_pos h]
    simp only [existing?, hid, Option.bind_some] at hexisting
    dsimp only
    rw [revised, hexisting]
  · rw [if_neg h]
    cases hgrant : s.grant request with
    | error fault => rfl
    | ok e' =>
      obtain ⟨he', -, hcheck⟩ := grant_eq_ok.1 hgrant
      cases he.symm.trans he'
      rw [hexisting] at hcheck
      exact absurd (Entity.permits_iff.2 hcheck) h

/-- Requests of an entity that is not declared change nothing. -/
theorem Calm.receiveAll_of_undeclared {s : Store} (h : s.Calm) {requests : List WriteRequest}
    (hids : ∀ request ∈ requests, request.record.id.isSome)
    (hentity : ∀ request ∈ requests, ∀ e, s.entity request.record.entity ≠ .ok e) :
    (s.receiveAll requests).2 = s := by
  induction requests with
  | nil => rfl
  | cons request requests ih =>
    rw [List.forall_mem_cons] at hids hentity
    obtain ⟨id, hid⟩ := Option.isSome_iff_exists.1 hids.1
    have hfirst : (s.receive request).2 = s := by
      rw [h.receive_eq hid]
      cases hgrant : s.grant request with
      | error fault => rfl
      | ok e => exact absurd (grant_eq_ok.1 hgrant).1 (hentity.1 e)
    rw [receiveAll_cons, hfirst]
    exact ih hids.2 hentity.2

/-- What upserts about one place leave there. -/
theorem Calm.at?_receiveAll_upserts {s : Store} (h : s.Calm) {e : Entity} {place : Place}
    {id : Uuid} (hplace : place.id = some id) {requests : List WriteRequest}
    (hrequests : ∀ request ∈ requests, request.operation = .upsert ∧ request.place = place ∧
      s.entity request.record.entity = .ok e) :
    (s.receiveAll requests).2.tables.at? place =
      e.upsertAll id (s.tables.at? place) (requests.map (·.record)) := by
  induction requests generalizing s with
  | nil => rfl
  | cons request requests ih =>
    rw [List.forall_mem_cons] at hrequests
    obtain ⟨⟨hupsert, rfl, he⟩, hrest⟩ := hrequests
    have hid : request.record.id = some id := hplace
    have hcatalog : (s.receive request).2.tables.catalog = s.tables.catalog :=
      h.catalog_receive (by rw [hid]; rfl)
    have hrest' : ∀ other ∈ requests, other.operation = .upsert ∧
        other.place = request.place ∧
        (s.receive request).2.entity other.record.entity = .ok e := by
      intro other hother
      obtain ⟨hop, hsame, hentity⟩ := hrest other hother
      refine ⟨hop, hsame, ?_⟩
      rw [entity_eq_ok] at hentity ⊢
      rw [hcatalog, hentity]
    have hfirst : (s.receive request).2.tables.at? request.place =
        e.upsert id (s.tables.at? request.place) request.record := by
      rw [h.at?_receive hid, if_pos rfl, leaves_upsert hupsert hid he]
    rw [receiveAll_cons, ih (h.receive request) hrest', hfirst]
    rfl

/-- Upserts that come again leave every place as it is. -/
theorem Calm.at?_receiveAll_again {s : Store} (h : s.Calm)
    (hcreatable : ∀ name e, s.tables.catalog.entity? name = some e → e.Creatable)
    {requests : List WriteRequest} (hupsert : ∀ request ∈ requests, request.operation = .upsert)
    (hids : ∀ request ∈ requests, request.record.id.isSome) (place : Place) :
    ((s.receiveAll requests).2.receiveAll requests).2.tables.at? place =
      (s.receiveAll requests).2.tables.at? place := by
  have ht := h.receiveAll requests
  have hcatalog := h.catalog_receiveAll hids
  have hat := h.at?_receiveAll hids place
  -- only the requests about the place matter, and all of them name the same entity
  rw [ht.at?_receiveAll hids]
  have hhere : ∀ request ∈ requests.filter (·.place = place),
      request ∈ requests ∧ request.place = place := by
    intro request hrequest
    simpa using List.mem_filter.1 hrequest
  revert hhere hat
  cases requests.filter (·.place = place) with
  | nil => exact fun _ _ => rfl
  | cons first rest =>
    intro hat hhere
    have hfirst := hhere first List.mem_cons_self
    have hsame : ∀ request ∈ first :: rest, ∀ catalog : Catalog,
        catalog.entity? request.record.entity = catalog.entity? first.record.entity := by
      intro request hrequest catalog
      have hplaces := (hhere request hrequest).2.trans hfirst.2.symm
      exact Catalog.entity?_congr (congrArg Place.key hplaces)
    obtain ⟨id, hid⟩ := Option.isSome_iff_exists.1 (hids first hfirst.1)
    have hplace : place.id = some id := by
      rw [← hfirst.2]
      exact hid
    cases he : s.tables.catalog.entity? first.record.entity with
    | none =>
      have hrest : ∀ request ∈ first :: rest, request.record.id.isSome :=
        fun request hrequest => hids request (hhere request hrequest).1
      rw [ht.receiveAll_of_undeclared hrest]
      intro request hrequest e hentity
      rw [entity_eq_ok, hcatalog, hsame request hrequest, he] at hentity
      exact nomatch hentity
    | some e =>
      have hrequests : ∀ u : Store, u.tables.catalog = s.tables.catalog →
          ∀ request ∈ first :: rest, request.operation = .upsert ∧ request.place = place ∧
            u.entity request.record.entity = .ok e := by
        intro u hu request hrequest
        have hmem := hhere request hrequest
        refine ⟨hupsert request hmem.1, hmem.2, ?_⟩
        rw [entity_eq_ok, hu, hsame request hrequest, he]
      rw [ht.at?_receiveAll_upserts hplace (hrequests _ hcatalog), hat,
        h.at?_receiveAll_upserts hplace (hrequests _ rfl),
        Entity.upsertAll_again (hcreatable _ e he)]

/-- **Sending again.** Where every attribute that may be updated may be created as well, upserts
with identities that are sent twice leave the very tables that they leave when they are sent
once. -/
theorem Calm.executeAll_again {w : World Store} (h : w.state.Calm)
    (hcreatable : ∀ name e, w.state.tables.catalog.entity? name = some e → e.Creatable)
    {requests : List WriteRequest} (hupsert : ∀ request ∈ requests, request.operation = .upsert)
    (hids : ∀ request ∈ requests, request.record.id.isSome) :
    ∃ (results again : List (Except Fault WriteResponse)) (u v : World Store),
      (executeAll requests).runOn w = (.ok results, u) ∧
        (executeAll requests).runOn u = (.ok again, v) ∧ v.state.tables = u.state.tables := by
  obtain ⟨journal, hrun⟩ := h.runOn_executeAll requests
  have ht := h.receiveAll requests
  obtain ⟨journal', hrun'⟩ := Calm.runOn_executeAll
    (w := ⟨(w.state.receiveAll requests).2.countBatch requests.length, journal⟩)
    (ht.countBatch _) requests
  have hsame := ht.tables_receiveAll_of_at? hids (h.at?_receiveAll_again hcreatable hupsert hids)
  refine ⟨_, _, _, _, hrun, hrun', ?_⟩
  -- that the first batch was counted makes no difference to the second one
  show ((Store.receiveAll (Store.countBatch _ _) requests).2.countBatch _).tables = _
  rw [Store.countBatch, Store.countBatch, receiveAll_count]
  exact hsame

/-- A store for notes, of which the author is given once and for all. -/
def authored : Store :=
  ofEntities [((Entity.ofName "note").declare (.ofType "rank" .integer)).declare
    { Attribute.ofType "author" .string with validForUpdate := false }]

/-- A note is made and changed twice; the second change has a value of the wrong kind. -/
def authoredRequests : List WriteRequest :=
  [⟨.upsert, ⟨"note", some (.numbered 1),
      .ofList [("Author", .text (some "who")), ("rank", .int32 (some 1))]⟩⟩,
    ⟨.upsert, ⟨"NOTE", some (.numbered 1), .ofList [("RANK", .int32 (some 2))]⟩⟩,
    ⟨.upsert, ⟨"note", some (.numbered 1), .ofList [("rank", .text (some "three"))]⟩⟩]

/-- The first request is refused when it comes again, and the note stays as it is. -/
theorem Calm.executeAll_again_authored :
    ∃ (results again : List (Except Fault WriteResponse)) (u v : World Store),
      (executeAll authoredRequests).runOn ⟨authored, []⟩ = (.ok results, u) ∧
        (executeAll authoredRequests).runOn u = (.ok again, v) ∧
        v.state.tables = u.state.tables ∧
        results.map (·.isOk) = [true, true, false] ∧ again.map (·.isOk) = [false, true, false] ∧
        (v.state.tables.records "note").map (·.attributes.entries) =
          [[("author", .text (some "who")), ("rank", .int32 (some 2))]] := by
  have hcreatable : ∀ e ∈ authored.tables.catalog.entities, ∀ a ∈ e.attributes,
      a.validForUpdate = true → a.validForCreate = true := by decide
  have hupsert : ∀ request ∈ authoredRequests, request.operation = .upsert := by decide
  obtain ⟨results, again, u, v, hrun, hagain, htables⟩ :=
    executeAll_again (w := ⟨authored, []⟩) ⟨rfl, rfl⟩
      (fun _ e he => hcreatable e (List.mem_of_find?_eq_some he)) hupsert (by decide)
  cases hrun
  cases hagain
  exact ⟨_, _, _, _, rfl, rfl, htables, rfl, rfl, rfl⟩

end Store

end RecordService
