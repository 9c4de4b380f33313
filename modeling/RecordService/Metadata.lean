import RecordService.Text.LowerCase
import RecordService.Value

namespace RecordService

/-!
# Metadata

What the service declares about its entities and their attributes. Names of attributes are
compared ignoring the case of ASCII letters.

* `Attribute`: one attribute, with its type and the operations it is valid for.
* `Entity`: one entity; `Entity.attribute?` finds an attribute by name.
* `Catalog`: the entities that are known, found by name ignoring case.
-/

/-! ### Types -/

/-- The declared type of an attribute. -/
inductive AttributeType where
  | string
  | memo
  | integer
  | bigInt
  | double
  | decimal
  | money
  | boolean
  | dateTime
  | picklist
  | state
  | status
  | lookup
  | customer
  | owner
  | uniqueidentifier
  deriving DecidableEq, Repr

namespace AttributeType

/-- The kind of the values of a type. -/
def kind : AttributeType → ValueKind
  | string => .text
  | memo => .text
  | integer => .int32
  | bigInt => .int64
  | double => .double
  | decimal => .decimal
  | money => .money
  | boolean => .boolean
  | dateTime => .timestamp
  | picklist => .choice
  | state => .choice
  | status => .choice
  | lookup => .reference
  | customer => .reference
  | owner => .reference
  | uniqueidentifier => .uuid

/-- Attributes of dates have the kind of points in time. -/
theorem kind_ne_date (t : AttributeType) : t.kind ≠ .date := by
  cases t <;> decide

/-- The null of a type. -/
def emptyValue (t : AttributeType) : Value :=
  t.kind.nullValue

/-- Types of references. -/
def isLookup (t : AttributeType) : Bool :=
  t.kind == .reference

/-- Types of codes with labels. -/
def isOptionSet (t : AttributeType) : Bool :=
  t.kind == .choice

/-- All types with their names. -/
def names : List (AttributeType × String) :=
  [(string, "String"), (memo, "Memo"), (integer, "Integer"), (bigInt, "BigInt"),
   (double, "Double"), (decimal, "Decimal"), (money, "Money"), (boolean, "Boolean"),
   (dateTime, "DateTime"), (picklist, "Picklist"), (state, "State"), (status, "Status"),
   (lookup, "Lookup"), (customer, "Customer"), (owner, "Owner"),
   (uniqueidentifier, "Uniqueidentifier")]

/-- The name of a type. -/
def name (t : AttributeType) : String :=
  (names.lookup t).getD ""

/-- The type with a given name. -/
def ofName? (name : String) : Option AttributeType :=
  (names.find? (·.2 == name)).map Prod.fst

end AttributeType

/-- How an attribute of dates and times keeps its values. -/
inductive DateTimeBehavior where
  /-- Points in time, which the service keeps in UTC. -/
  | userLocal
  /-- Calendar dates. -/
  | dateOnly
  /-- Date and time as given. -/
  | timeZoneIndependent
  deriving DecidableEq, Repr

/-! ### Attributes -/

/-- The description of an attribute. -/
structure Attribute where
  name : String
  type : AttributeType
  /-- The entities that a lookup may point to; none means any. -/
  targets : List String
  /-- The codes of an option set, or the labels of false and true. -/
  options : List Choice
  /-- The places that decimals and money keep. -/
  precision : Option Nat
  behavior : DateTimeBehavior
  validForCreate : Bool
  validForUpdate : Bool
  validForRead : Bool
  deriving DecidableEq, Repr

namespace Attribute

/-- An attribute without any restriction. Money keeps two places. -/
def ofType (name : String) (type : AttributeType) : Attribute where
  name := name
  type := type
  targets := []
  options := []
  precision := if type = .money then some 2 else none
  behavior := .userLocal
  validForCreate := true
  validForUpdate := true
  validForRead := true

/-- The label of a code. -/
def optionLabel? (a : Attribute) (code : Int32) : Option String :=
  (a.options.find? (·.code == code)).bind (·.label)

/-- The code of a label, the case of ASCII letters aside. -/
def optionCode? (a : Attribute) (label : String) : Option Int32 :=
  (a.options.find? fun c => c.label.any (Text.eqIgnoreCase · label)).map (·.code)

end Attribute

/-! ### Entities -/

/-- The description of an entity. -/
structure Entity where
  name : String
  primaryId : String
  primaryName : Option String
  attributes : List Attribute
  deriving DecidableEq, Repr

namespace Entity

/-- The usual name of the attribute that identifies the records of an entity. -/
def defaultPrimaryId (name : String) : String :=
  name ++ "id"

/-- An entity with its identifying attribute, which is not valid for update. -/
def ofName (name : String) : Entity where
  name := name
  primaryId := defaultPrimaryId name
  primaryName := none
  attributes :=
    [{ Attribute.ofType (defaultPrimaryId name) .uniqueidentifier with validForUpdate := false }]

/-- Declare an attribute, in place of one with exactly the same name. -/
def declare (e : Entity) (a : Attribute) : Entity :=
  { e with attributes := e.attributes.filter (·.name != a.name) ++ [a] }

/-- The attribute with a given name. -/
def attribute? (e : Entity) (name : String) : Option Attribute :=
  e.attributes.find? fun a => Text.eqIgnoreCase a.name name

/-- Whether a name is that of the identifying attribute. -/
def isPrimaryId (e : Entity) (name : String) : Bool :=
  Text.eqIgnoreCase e.primaryId name

end Entity

/-! ### Catalogs -/

/-- The entities that are known, the latest one first. -/
structure Catalog where
  entities : List Entity
  deriving DecidableEq, Repr

namespace Catalog

/-- No entity is known. -/
def empty : Catalog := ⟨[]⟩

/-- Make an entity known, in place of an earlier one of the same name. -/
def insert (c : Catalog) (e : Entity) : Catalog :=
  ⟨e :: c.entities⟩

/-- The entity with a given name, the case of all letters aside. -/
def entity? (c : Catalog) (name : String) : Option Entity :=
  c.entities.find? fun e => Text.lower e.name == Text.lower name

/-- An attribute of an entity. -/
def attribute? (c : Catalog) (entity name : String) : Option Attribute :=
  (c.entity? entity).bind (·.attribute? name)

end Catalog

end RecordService
