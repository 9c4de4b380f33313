import RecordService.Exchange.Value
import RecordService.Input

namespace RecordService.Exchange

/-!
# Exchange of metadata and records
-/

/-! ### Metadata -/

/-- A code and its label. -/
def readChoice (j : Json) : Choice :=
  ⟨int32Of j "code", textOf? j "label"⟩

/-- An attribute. A precision that is not given is that of the type. -/
def readAttribute (j : Json) : Answer Attribute := do
  let type ← required (AttributeType.ofName? (textOf j "type"))
  let base := Attribute.ofType (textOf j "name") type
  let writable := !boolOf j "read_only"
  return { base with
    targets := textsOf j "targets"
    options := (itemsOf j "options").map readChoice
    precision := if hasMember j "precision" then natOf? j "precision" else base.precision
    behavior :=
      match textOf j "behavior" with
      | "DateOnly" => .dateOnly
      | "TimeZoneIndependent" => .timeZoneIndependent
      | _ => .userLocal
    validForCreate := writable
    validForUpdate := writable && !boolOf j "create_only"
    validForRead := !boolOf j "unreadable" }

/-- An entity. -/
def readEntity (j : Json) : Answer Entity := do
  let attributes ← (itemsOf j "attributes").mapM readAttribute
  let e := attributes.foldl Entity.declare (Entity.ofName (textOf j "name"))
  return { e with
    primaryName := textOf? j "primary_name"
    primaryId := (textOf? j "primary_id").getD e.primaryId }

/-- The entities of a member. -/
def readEntities (j : Json) : Answer (List Entity) :=
  (itemsOf j "entities").mapM readEntity

/-- A catalog of the entities of a member. -/
def readCatalog (j : Json) : Answer Catalog :=
  (readEntities j).map fun es => es.foldl Catalog.insert .empty

/-! ### Records -/

/-- A record. -/
def record (r : Record) : Json :=
  .object
    [("entity", .string r.entity),
     ("id", optional (fun id => .string id.toText) r.id),
     ("attributes",
       .array (r.attributes.entries.map fun (name, v) => .array [.string name, value v]))]

/-- The name and the value of an attribute. -/
def readNamedValue (j : Json) : Answer (String × Value) :=
  match j.items with
  | [name, v] => (readValue v).map (name.text?.getD "", ·)
  | _ => undecodable

/-- A record. -/
def readRecord (j : Json) : Answer Record := do
  let id ← readUuid? (j.member "id")
  let attributes ← (itemsOf j "attributes").mapM readNamedValue
  return ⟨textOf j "entity", id, .ofList attributes⟩

/-- An input record with values that may be typed. -/
def readInput (j : Json) : Answer Input :=
  match j with
  | .object members => do
    let values ← members.mapM fun (name, v) => (readInputValue v).map (name, ·)
    return ⟨.ofList values⟩
  | j => Input.ofJson j

end RecordService.Exchange
