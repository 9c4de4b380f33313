import RecordService.Request
import RecordService.Tables

namespace RecordService

/-!
# Stores

A store keeps records in memory, and checks what is written against the declared entities. It
counts the calls that it receives, and refuses requests or calls when it was told to.

* `Entity.check`: whether the attributes of a record may be written.
* `Store.write`: the effect of a request that is not refused.
* `Store.receive`, `Store.receiveAll`: the effect of requests as they arrive.
-/

/-! ### What may be written -/

namespace Fault

/-- A record or an entity does not exist. -/
def missingCode : Int32 := -2147220969

/-- A record with the same identity exists already. -/
def duplicateCode : Int32 := -2147220937

/-- An entity has no such attribute. -/
def noAttributeCode : Int32 := -2147217149

/-- A value does not fit its attribute, or the attribute cannot be written. -/
def invalidCode : Int32 := -2147220989

/-- The fault of an entity that is not declared. -/
def unknownEntity (name : String) : Fault :=
  ⟨missingCode, "Entity `" ++ name ++ "` does not exist"⟩

end Fault

/-- Whether a value is of the kind of an attribute. A null without a kind fits everywhere, and a
date fits where a timestamp does. -/
def Attribute.accepts (a : Attribute) : Value → Bool
  | .null => true
  | .date _ => a.type == .dateTime
  | v => v.kind == a.type.kind

namespace Entity

/-- Check that an attribute of a record may be written, when the record is created or else when
it is changed. -/
def checkValue (e : Entity) (creating : Bool) (name : String) (v : Value) : Except Fault Unit :=
  match e.attribute? name with
  | none => .error ⟨Fault.noAttributeCode, "`" ++ e.name ++ "` has no attribute `" ++ name ++ "`"⟩
  | some a =>
    let place := "`" ++ e.name ++ "." ++ name ++ "`"
    if !(if creating then a.validForCreate else a.validForUpdate) then
      .error ⟨Fault.invalidCode, place ++ " cannot be written"⟩
    else if !a.accepts v then
      .error
        ⟨Fault.invalidCode,
          "`" ++ v.toText ++ "` is not a valid " ++ a.type.name ++ " value for " ++ place⟩
    else .ok ()

/-- Check that all attributes of a record may be written. -/
def check (e : Entity) (creating : Bool) (r : Record) : Except Fault Unit :=
  r.attributes.entries.forM fun (name, v) => e.checkValue creating name v

/-- The declared spelling of a name. -/
def spelling (e : Entity) (name : String) : String :=
  ((e.attribute? name).map (·.name)).getD name

end Entity

/-- A record with the attributes of another one set, under their declared names. -/
def Record.setAll (r : Record) (e : Entity) (entries : List (String × Value)) : Record :=
  entries.foldl (fun r entry => r.set (e.spelling entry.1) entry.2) r

/-! ### Stores -/

/-- How often the calls of a store were made. -/
structure CallCounts where
  queries : Nat
  retrievals : Nat
  /-- Requests that came alone. -/
  singles : Nat
  /-- Batches of requests, whatever their size. -/
  batches : Nat
  /-- All requests. -/
  requests : Nat
  deriving DecidableEq, Repr

/-- No calls. -/
def CallCounts.zero : CallCounts :=
  ⟨0, 0, 0, 0, 0⟩

/-- A fault that answers what comes next, so many times. -/
structure PendingFault where
  fault : Fault
  count : Nat
  deriving DecidableEq, Repr

/-- A pending fault, unless it is due zero times. -/
def PendingFault.times (fault : Fault) (count : Nat) : Option PendingFault :=
  if count = 0 then none else some ⟨fault, count⟩

/-- What is pending after one time. -/
def PendingFault.rest (p : PendingFault) : Option PendingFault :=
  times p.fault (p.count - 1)

/-- A store. -/
structure Store where
  tables : Tables
  /-- Refuses requests. -/
  requestFault : Option PendingFault
  /-- Refuses calls as a whole. -/
  callFault : Option PendingFault
  calls : CallCounts
  /-- The number of identities that were given to records that came without. -/
  issued : Nat

namespace Store

/-- A store without records. -/
def ofCatalog (catalog : Catalog) : Store :=
  ⟨.ofCatalog catalog, none, none, .zero, 0⟩

/-- A store for some entities. -/
def ofEntities (entities : List Entity) : Store :=
  ofCatalog (entities.foldl Catalog.insert .empty)

/-- Remove all records, pending faults and counts. -/
def reset (s : Store) : Store :=
  { ofCatalog s.tables.catalog with issued := s.issued }

/-- Refuse the next requests. -/
def refuseRequests (s : Store) (fault : Fault) (count : Nat) : Store :=
  { s with requestFault := PendingFault.times fault count }

/-- Refuse the next calls as a whole. -/
def refuseCalls (s : Store) (fault : Fault) (count : Nat) : Store :=
  { s with callFault := PendingFault.times fault count }

/-- Count a call. -/
def count (s : Store) (f : CallCounts → CallCounts) : Store :=
  { s with calls := f s.calls }

/-- The declared entity of a name. -/
def entity (s : Store) (name : String) : Except Fault Entity :=
  match s.tables.catalog.entity? name with
  | some e => .ok e
  | none => .error (.unknownEntity name)

/-! ### Identities -/

/-- The identity of a record, or else the next one to be given out. -/
def identify (s : Store) (r : Record) : Uuid × Store :=
  match r.id with
  | some id => (id, s)
  | none => (.numbered (s.issued + 1), { s with issued := s.issued + 1 })

/-- Keep a record as it is, without checks. -/
def insert (s : Store) (r : Record) : Uuid × Store :=
  let (id, s) := s.identify r
  (id, { s with tables := s.tables.put r.entity (r.withId id) })

/-! ### Writing -/

/-- The kept record that a request is about. -/
def existing? (s : Store) (e : Entity) (r : Record) : Option Record :=
  r.id.bind (s.tables.find? e.name)

/-- Check that the record of a request exists or does not, as its operation wants it. -/
def checkExistence (s : Store) (e : Entity) (request : WriteRequest) : Except Fault Unit :=
  let named := "`" ++ e.name ++ "` " ++
    (request.record.id.map Uuid.toText).getD "without identity"
  match request.operation, s.existing? e request.record with
  | .create, some _ => .error ⟨Fault.duplicateCode, named ++ " already exists"⟩
  | .update, none => .error ⟨Fault.missingCode, named ++ " does not exist"⟩
  | _, _ => .ok ()

/-- Carry out a request. -/
def write (s : Store) (request : WriteRequest) : Except Fault (WriteResponse × Store) := do
  let e ← s.entity request.record.entity
  s.checkExistence e request
  let old := s.existing? e request.record
  e.check old.isNone request.record
  let (id, s) := s.identify request.record
  let base := (s.tables.find? e.name id).getD ((Record.ofEntity e.name).withId id)
  let r := base.setAll e request.record.attributes.entries
  return (⟨id, old.isNone⟩, { s with tables := s.tables.put e.name r })

/-- Receive a request: refuse it if that is due, or else carry it out. -/
def receive (s : Store) (request : WriteRequest) : Except Fault WriteResponse × Store :=
  match s.requestFault with
  | some p => (.error p.fault, { s with requestFault := p.rest })
  | none =>
    match s.write request with
    | .ok (response, s) => (.ok response, s)
    | .error fault => (.error fault, s)

/-- Receive requests one after the other. -/
def receiveAll (s : Store) : List WriteRequest → List (Except Fault WriteResponse) × Store
  | [] => ([], s)
  | request :: requests =>
    let (result, s) := s.receive request
    let (results, s) := s.receiveAll requests
    (result :: results, s)

end Store

end RecordService
