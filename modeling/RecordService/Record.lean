import RecordService.Dict
import RecordService.Text.LowerCase
import RecordService.Value.Typed

namespace RecordService

/-!
# Records

A record has ordered attributes, and an identity once the service keeps it. An attribute is
found by its exact name, or else by the first name that is equal ignoring ASCII case.

* `Record.get?`, `Record.read`: reading an attribute, as a value or as typed data.
* `Record.set`, `Record.erase`: changing attributes.
* `Record.toText`: the text of a record in messages.
-/

/-- The entry of a name, ignoring ASCII case when no entry has exactly that name. -/
def Dict.getIgnoreCase? {α : Type} (d : Dict α) (name : String) : Option α :=
  d.get? name <|> (d.find? (Text.eqIgnoreCase · name)).map Prod.snd

/-- A record of an entity. -/
structure Record where
  entity : String
  id : Option Uuid
  attributes : Dict Value
  deriving DecidableEq, Repr, Inhabited

namespace Record

/-- A record without identity and attributes. -/
def ofEntity (entity : String) : Record :=
  ⟨entity, none, .empty⟩

/-- Give an attribute a value. -/
def set (r : Record) (name : String) (value : Value) : Record :=
  { r with attributes := r.attributes.insert name value }

/-- Give a record its identity. -/
def withId (r : Record) (id : Uuid) : Record :=
  { r with id := some id }

/-- The value of an attribute. -/
def get? (r : Record) (name : String) : Option Value :=
  r.attributes.getIgnoreCase? name

/-- Read an attribute as typed data; one that the record does not have is null. -/
def read (α : Type) [Readable α] (r : Record) (name : String) : Answer α :=
  inContext ("While reading `" ++ r.entity ++ "." ++ name ++ "`")
    (((r.get? name).getD .null).read α)

/-- Remove the attribute of exactly the given name. -/
def erase (r : Record) (name : String) : Record :=
  { r with attributes := r.attributes.erase name }

/-- The text of a record. -/
def toText (r : Record) : String :=
  let id :=
    match r.id with
    | some id => "(" ++ id.toText ++ ")"
    | none => ""
  let attributes := r.attributes.entries.map fun (name, v) => " " ++ name ++ ": " ++ v.toText
  r.entity ++ id ++ " \x7b" ++ ",".intercalate attributes ++ " \x7d"

end Record

end RecordService
