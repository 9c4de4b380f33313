import RecordService.Store

namespace RecordService

/-!
# What a request does to a store

A request that is carried out puts one record into the table of its entity. Everything that is
shown of writing later follows from this, and no later proof looks into `Store.write`.

* `Catalog.entity?_name`, `Entity.attribute?_name`: what is found by a name is found by the
  declared name.
* `Entity.check_eq_ok`: which attributes may be written.
* `Record.mem_setAll`: the attributes that a record has after some are set.
* `Store.grant`, `Store.grant_eq_ok`: which requests are let through.
* `Store.revised`: the record that a request leaves behind.
* `Store.write_eq_ok`: all that a request that is carried out does, and when it is.
* `Store.Received`, `Store.received_receive`: what becomes of a request that arrives.
* `Store.receiveAll_append`: requests that arrive one after the other.
-/

/-! ### Entities by name -/

namespace Catalog

/-- An entity is found by every spelling of its name. -/
theorem entity?_congr {c : Catalog} {m n : String} (h : Text.lower m = Text.lower n) :
    c.entity? m = c.entity? n := by
  unfold entity?
  rw [h]

/-- An entity is found by its name, whatever the case of the letters. -/
theorem lower_of_entity? {c : Catalog} {name : String} {e : Entity}
    (h : c.entity? name = some e) : Text.lower e.name = Text.lower name := by
  have hfound := List.find?_some h
  exact beq_iff_eq.1 hfound

/-- An entity is found by its declared name. -/
theorem entity?_name {c : Catalog} {name : String} {e : Entity} (h : c.entity? name = some e) :
    c.entity? e.name = some e :=
  (entity?_congr (lower_of_entity? h)).trans h

end Catalog

/-- A store answers with an entity exactly if it is declared. -/
theorem Store.entity_eq_ok {s : Store} {name : String} {e : Entity} :
    s.entity name = .ok e ↔ s.tables.catalog.entity? name = some e := by
  unfold Store.entity
  cases s.tables.catalog.entity? name with
  | none => exact ⟨(fun h => nomatch h), (fun h => nomatch h)⟩
  | some e' => exact ⟨fun h => congrArg some (Except.ok.inj h), fun h => h ▸ rfl⟩

/-! ### Attributes that are written -/

namespace Entity

/-- An attribute may be written if it is declared, valid for the operation, and takes the value. -/
theorem checkValue_eq_ok {e : Entity} {creating : Bool} {name : String} {v : Value} :
    e.checkValue creating name v = .ok () ↔
      ∃ a, e.attribute? name = some a ∧
        (if creating then a.validForCreate else a.validForUpdate) = true ∧ a.accepts v = true := by
  unfold checkValue
  cases e.attribute? name with
  | none => exact ⟨(fun h => nomatch h), fun ⟨_, h, _⟩ => nomatch h⟩
  | some a =>
    dsimp only
    constructor
    · intro h
      refine ⟨a, rfl, ?_⟩
      -- whichever of the two checks fails, it answers by a fault
      cases hwritable : (if creating then a.validForCreate else a.validForUpdate) with
      | false => rw [hwritable] at h; exact nomatch h
      | true =>
        cases haccepts : a.accepts v with
        | false => rw [hwritable, haccepts] at h; exact nomatch h
        | true => exact ⟨rfl, rfl⟩
    · rintro ⟨a', ha, hwritable, haccepts⟩
      cases ha
      rw [hwritable, haccepts]
      rfl

/-- The attributes of a record may be written if each of them may be. -/
theorem check_eq_ok {e : Entity} {creating : Bool} {r : Record} :
    e.check creating r = .ok () ↔
      ∀ entry ∈ r.attributes.entries, e.checkValue creating entry.1 entry.2 = .ok () := by
  unfold check
  induction r.attributes.entries with
  | nil => exact ⟨(fun _ _ h => nomatch h), fun _ => rfl⟩
  | cons entry entries ih =>
    rw [List.forall_mem_cons, ← ih]
    show (e.checkValue creating entry.1 entry.2 >>= fun _ => List.forM entries _) = _ ↔ _
    cases e.checkValue creating entry.1 entry.2 with
    | error fault => exact ⟨(fun h => nomatch h), fun h => nomatch h.1⟩
    | ok u => exact ⟨fun h => ⟨rfl, h⟩, And.right⟩

/-- An attribute is found by every spelling of its name. -/
theorem attribute?_congr {e : Entity} {m n : String} (h : Text.eqIgnoreCase m n = true) :
    e.attribute? m = e.attribute? n := by
  have hfold := Text.eqIgnoreCase_iff.1 h
  simp only [attribute?, Text.eqIgnoreCase, hfold]

/-- An attribute is found by its name, whatever the case of the letters. -/
theorem eqIgnoreCase_of_attribute? {e : Entity} {name : String} {a : Attribute}
    (h : e.attribute? name = some a) : Text.eqIgnoreCase a.name name = true := by
  have hfound := List.find?_some h
  exact hfound

/-- An attribute is found by its declared name. -/
theorem attribute?_name {e : Entity} {name : String} {a : Attribute}
    (h : e.attribute? name = some a) : e.attribute? a.name = some a :=
  (attribute?_congr (eqIgnoreCase_of_attribute? h)).trans h

/-- The spelling of a name is that of the attribute that it finds. -/
theorem spelling_of_attribute? {e : Entity} {name : String} {a : Attribute}
    (h : e.attribute? name = some a) : e.spelling name = a.name := by
  rw [spelling, h]
  rfl

/-- The declared spelling of a name differs from it in case only. -/
theorem eqIgnoreCase_spelling (e : Entity) (name : String) :
    Text.eqIgnoreCase (e.spelling name) name = true := by
  unfold spelling
  cases ha : e.attribute? name with
  | none => exact Text.eqIgnoreCase_self name
  | some a => exact eqIgnoreCase_of_attribute? ha

end Entity

namespace Record

/-- Setting values leaves the identity of a record. -/
@[simp] theorem id_setAll (r : Record) (e : Entity) (entries : List (String × Value)) :
    (r.setAll e entries).id = r.id := by
  unfold setAll
  induction entries generalizing r with
  | nil => rfl
  | cons entry entries ih => exact ih _

/-- Setting values leaves the entity of a record. -/
@[simp] theorem entity_setAll (r : Record) (e : Entity) (entries : List (String × Value)) :
    (r.setAll e entries).entity = r.entity := by
  unfold setAll
  induction entries generalizing r with
  | nil => rfl
  | cons entry entries ih => exact ih _

/-- An attribute of a record was there before, or it was set under its declared name. -/
theorem mem_setAll {r : Record} {e : Entity} {entries : List (String × Value)}
    {entry : String × Value} (h : entry ∈ (r.setAll e entries).attributes.entries) :
    entry ∈ r.attributes.entries ∨ ∃ x ∈ entries, entry = (e.spelling x.1, x.2) := by
  induction entries generalizing r with
  | nil => exact .inl h
  | cons x entries ih =>
    rcases ih (r := r.set (e.spelling x.1) x.2) h with hset | ⟨y, hy, heq⟩
    · rcases Dict.mem_put hset with heq | hold
      · exact .inr ⟨x, List.mem_cons_self, heq⟩
      · exact .inl hold
    · exact .inr ⟨y, List.mem_cons_of_mem _ hy, heq⟩

end Record

namespace Store

/-! ### A single request -/

/-- The record that a request leaves behind: the kept one, or else a new one, with the attributes
of the request set. -/
def revised (s : Store) (e : Entity) (id : Uuid) (r : Record) : Record :=
  ((s.tables.find? e.name id).getD ((Record.ofEntity e.name).withId id)).setAll e
    r.attributes.entries

/-- The record has the identity that it is found by. -/
@[simp] theorem id_revised (s : Store) (e : Entity) (id : Uuid) (r : Record) :
    (s.revised e id r).id = some id := by
  unfold revised
  rw [Record.id_setAll]
  cases hfind : s.tables.find? e.name id with
  | none => rfl
  | some old => exact Table.id_of_find? hfind

/-- Giving a record an identity touches no table. -/
@[simp] theorem tables_identify (s : Store) (r : Record) : (s.identify r).2.tables = s.tables := by
  unfold identify
  split <;> rfl

/-- Giving a record an identity uses up no fault of a request. -/
@[simp] theorem requestFault_identify (s : Store) (r : Record) :
    (s.identify r).2.requestFault = s.requestFault := by
  unfold identify
  split <;> rfl

/-- Giving a record an identity uses up no fault of a call. -/
@[simp] theorem callFault_identify (s : Store) (r : Record) :
    (s.identify r).2.callFault = s.callFault := by
  unfold identify
  split <;> rfl

/-- The entity of a request that is let through, or the fault by which it is refused. -/
def grant (s : Store) (request : WriteRequest) : Except Fault Entity := do
  let e ← s.entity request.record.entity
  s.checkExistence e request
  e.check (s.existing? e request.record).isNone request.record
  return e

/-- A request is let through if its entity is declared, its record exists or not as it has to, and
its attributes may be written. -/
theorem grant_eq_ok {s : Store} {request : WriteRequest} {e : Entity} :
    s.grant request = .ok e ↔
      s.entity request.record.entity = .ok e ∧ s.checkExistence e request = .ok () ∧
        e.check (s.existing? e request.record).isNone request.record = .ok () := by
  unfold grant
  cases s.entity request.record.entity with
  | error fault => exact ⟨(fun h => nomatch h), fun h => nomatch h.1⟩
  | ok e' =>
    simp only [bind, Except.bind, pure, Except.pure, Except.ok.injEq]
    constructor
    · intro h
      cases hexists : s.checkExistence e' request with
      | error fault => rw [hexists] at h; exact nomatch h
      | ok u =>
        rw [hexists] at h
        dsimp only at h
        cases hcheck : e'.check (s.existing? e' request.record).isNone request.record with
        | error fault => rw [hcheck] at h; exact nomatch h
        | ok u' =>
          rw [hcheck] at h
          cases h
          exact ⟨rfl, hexists, hcheck⟩
    · rintro ⟨rfl, hexists, hcheck⟩
      rw [hexists]
      dsimp only
      rw [hcheck]

/-- The entity that a request is granted is the one that its record names. -/
theorem lower_of_grant {s : Store} {request : WriteRequest} {e : Entity}
    (h : s.grant request = .ok e) : Text.lower e.name = Text.lower request.record.entity :=
  Catalog.lower_of_entity? (entity_eq_ok.1 (grant_eq_ok.1 h).1)

/-- A request is carried out as soon as it is let through. -/
theorem write_eq_grant (s : Store) (request : WriteRequest) :
    s.write request = (s.grant request).map fun e =>
      (⟨(s.identify request.record).1, (s.existing? e request.record).isNone⟩,
        { (s.identify request.record).2 with
          tables := s.tables.put e.name
            (s.revised e (s.identify request.record).1 request.record) }) := by
  unfold write grant
  cases s.entity request.record.entity with
  | error fault => rfl
  | ok e =>
    simp only [bind, Except.bind]
    cases s.checkExistence e request with
    | error fault => rfl
    | ok u =>
      dsimp only
      cases e.check (s.existing? e request.record).isNone request.record with
      | error fault => rfl
      | ok u' => simp [revised, pure, Except.pure, Except.map]

/-- **Writing.** A request is carried out if its entity is declared, its record exists or not as
it has to, and its attributes may be written. Then the record that it leaves behind is kept under
its identity, and nothing else changes. -/
theorem write_eq_ok {s s' : Store} {request : WriteRequest} {response : WriteResponse} :
    s.write request = .ok (response, s') ↔
      ∃ e, s.entity request.record.entity = .ok e ∧ s.checkExistence e request = .ok () ∧
        e.check (s.existing? e request.record).isNone request.record = .ok () ∧
        response = ⟨(s.identify request.record).1, (s.existing? e request.record).isNone⟩ ∧
        s' = { (s.identify request.record).2 with
          tables := s.tables.put e.name (s.revised e response.id request.record) } := by
  rw [write_eq_grant]
  constructor
  · intro h
    cases hgrant : s.grant request with
    | error fault =>
      rw [hgrant] at h
      exact nomatch h
    | ok e =>
      rw [hgrant] at h
      cases h
      obtain ⟨he, hexists, hcheck⟩ := grant_eq_ok.1 hgrant
      exact ⟨e, he, hexists, hcheck, rfl, rfl⟩
  · rintro ⟨e, he, hexists, hcheck, rfl, rfl⟩
    rw [grant_eq_ok.2 ⟨he, hexists, hcheck⟩]
    rfl

/-- What becomes of a request that arrives: it is answered by a pending fault, or carried out, or
refused. A fault that is pending is used up, and a request that is refused changes nothing. -/
inductive Received (s : Store) (request : WriteRequest) :
    Except Fault WriteResponse → Store → Prop where
  | due {p : PendingFault} (hfault : s.requestFault = some p) :
      Received s request (.error p.fault) { s with requestFault := p.rest }
  | done {response : WriteResponse} {s' : Store} (hfault : s.requestFault = none)
      (hwrite : s.write request = .ok (response, s')) : Received s request (.ok response) s'
  | refused {fault : Fault} (hfault : s.requestFault = none)
      (hwrite : s.write request = .error fault) : Received s request (.error fault) s

/-- What a store does with a request is one of the ways in which a request may be received. -/
theorem received_receive (s : Store) (request : WriteRequest) :
    s.Received request (s.receive request).1 (s.receive request).2 := by
  unfold receive
  cases hfault : s.requestFault with
  | some p => exact .due hfault
  | none =>
    dsimp only
    cases hwrite : s.write request with
    | error fault => exact .refused hfault hwrite
    | ok answer => exact .done hfault hwrite

/-! ### Requests one after the other -/

@[simp] theorem receiveAll_nil (s : Store) : s.receiveAll [] = ([], s) := rfl

/-- A request is received before those that come after it. -/
theorem receiveAll_cons (s : Store) (request : WriteRequest) (requests : List WriteRequest) :
    s.receiveAll (request :: requests) =
      ((s.receive request).1 :: ((s.receive request).2.receiveAll requests).1,
        ((s.receive request).2.receiveAll requests).2) := rfl

/-- Requests that come one after the other are received one after the other. -/
theorem receiveAll_append (s : Store) (as bs : List WriteRequest) :
    s.receiveAll (as ++ bs) =
      ((s.receiveAll as).1 ++ ((s.receiveAll as).2.receiveAll bs).1,
        ((s.receiveAll as).2.receiveAll bs).2) := by
  induction as generalizing s with
  | nil => rfl
  | cons a as ih => rw [List.cons_append, receiveAll_cons, ih, receiveAll_cons, List.cons_append]

/-- Every request has a result. -/
@[simp] theorem length_receiveAll (s : Store) (requests : List WriteRequest) :
    (s.receiveAll requests).1.length = requests.length := by
  induction requests generalizing s with
  | nil => rfl
  | cons request requests ih => rw [receiveAll_cons, List.length_cons, ih, List.length_cons]

/-- What every request keeps is kept by all of them. -/
theorem receiveAll_keeps {P : Store → Prop}
    (hstep : ∀ (s : Store) (request : WriteRequest), P s → P (s.receive request).2) {s : Store}
    (h : P s) (requests : List WriteRequest) : P (s.receiveAll requests).2 := by
  induction requests generalizing s with
  | nil => exact h
  | cons request requests ih => exact ih (hstep s request h)

end Store

end RecordService
