import RecordService.Reading
import RecordService.Reading.Sources
import RecordService.Write.Schedule

namespace RecordService.Conformance

/-!
# Fixtures

Two entities with sample records, and the steps that scenarios take with them. A step that does
not succeed is a breach of what the scenario takes for granted.

* `contactEntity`, `accountEntity`: the entities.
* `contact`, `account`: sample records; `contactInput`: a sample input.
* `seed`, `fullNames`, `stored`: steps on a service.
-/

variable {σ : Type}

/-! ### Entities -/

/-- An attribute that may point to some entities. -/
def pointer (name : String) (type : AttributeType) (targets : List String) : Attribute :=
  { Attribute.ofType name type with targets }

/-- The entity of accounts. -/
def accountEntity : Entity :=
  { ([.ofType "name" .string, .ofType "accountnumber" .string, .ofType "revenue" .money,
      pointer "primarycontactid" .lookup ["contact"]] : List Attribute).foldl Entity.declare
      (.ofName "account") with
    primaryName := some "name" }

/-- The entity of contacts. -/
def contactEntity : Entity :=
  { ([.ofType "firstname" .string, .ofType "lastname" .string, .ofType "fullname" .string,
      .ofType "description" .memo, .ofType "emailaddress1" .string,
      .ofType "numberofchildren" .integer, .ofType "creditlimit" .money,
      .ofType "donotemail" .boolean,
      { Attribute.ofType "birthdate" .dateTime with behavior := .dateOnly },
      { Attribute.ofType "accountrolecode" .picklist with
        options := [⟨1, "Decision Maker"⟩, ⟨2, "Employee"⟩, ⟨3, "Influencer"⟩] },
      pointer "parentcustomerid" .customer ["account", "contact"],
      { Attribute.ofType "createdon" .dateTime with
        validForCreate := false
        validForUpdate := false }] : List Attribute).foldl Entity.declare (.ofName "contact") with
    primaryName := some "fullname" }

/-! ### Records and inputs -/

/-- A record with some texts. -/
def ofTexts (entity : String) (attributes : List (String × String)) : Record :=
  ⟨entity, none, .ofList (attributes.map fun (name, s) => (name, .text (some s)))⟩

/-- A contact with first, last and full name. -/
def contact (first last : String) : Record :=
  ofTexts "contact"
    [("firstname", first), ("lastname", last), ("fullname", first ++ " " ++ last)]

/-- An account with a name. -/
def account (name : String) : Record :=
  ofTexts "account" [("name", name)]

/-- The role with a code. -/
def role (code : Int32) : Value :=
  .choice (some ⟨code, none⟩)

/-- A reference to a record without its name. -/
def referenceTo (entity : String) (id : Uuid) : Value :=
  .reference (some ⟨entity, id, none⟩)

/-- The account that a contact belongs to. -/
def parent (id : Uuid) : Value :=
  referenceTo "account" id

/-- An input with loose values. -/
def looseInput (members : List (String × Json)) : Input :=
  ⟨(Dict.ofList members).map .loose⟩

/-- The input for a contact. -/
def contactInput (first last : String) : Input :=
  looseInput [("firstname", .string first), ("lastname", .string last)]

/-! ### Steps -/

/-- Go on only if something holds. -/
def expect (b : Bool) : Call σ Unit :=
  if b then return () else throw .breach

/-- The result that is there. -/
def present {α : Type} (a? : Option α) : Call σ α :=
  match a? with
  | some a => return a
  | none => throw .breach

/-- Create records, and tell their identities. -/
def seed (service : Service σ) (records : List Record) : Call σ (List Uuid) := do
  let results ← (service.executeAll (records.map fun r => ⟨.create, r⟩)).orBreach
  expect (results.length == records.length)
  results.mapM fun
    | .ok response => pure response.id
    | .error _ => throw .breach

/-- The text of a member of a row, empty if it is none. -/
def textIn (name : String) (row : Dict Json) : Call σ String := do
  return ((← present (row.get? name)).text?).getD ""

/-- Sort texts by their characters. -/
def sortTexts (ss : List String) : List String :=
  ss.mergeSort fun a b => !(b < a)

/-- The full names of the contacts that a draft selects, sorted. -/
def fullNames (service : Service σ) (d : QueryDraft) : Call σ (List String) := do
  let q ← (d.ask service [d.entity]).orBreach
  let rows ← (Reading.rows { Reading.ofQuery q with columns := ["fullname"] } service).orBreach
  return sortTexts (← rows.mapM (textIn "fullname"))

/-- A contact with all its attributes. -/
def stored (service : Service σ) (id : Uuid) : Call σ Record := do
  present (← (service.retrieve "contact" id .all).orBreach)

/-- The pipeline for an entity, which nobody cancels. -/
def pipelineFor (service : Service σ) (entity : String) (o : WriteOptions) :
    Call σ (Pipeline σ) :=
  Pipeline.prepare service entity o 0 fun _ => false

/-- Write inputs, and tell the outcomes in the order of the inputs. -/
def write (service : Service σ) (entity : String) (o : WriteOptions) (inputs : List Input) :
    Call σ (List ItemOutcome) := do
  return (← (← pipelineFor service entity o).write none inputs).sortedOutcomes

end RecordService.Conformance
