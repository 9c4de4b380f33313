import RecordService.Number.Decimal.Binary
import RecordService.Time.Timestamp
import RecordService.Json.Printer
import RecordService.Uuid

namespace RecordService

/-!
# Attribute values

The typed values of attributes. Every kind of value has a null of its own, so that an attribute
that was cleared still shows its type.

* `Value.kind`: the kind of a value.
* `Value.isNull`, `Value.toNull`: nulls.
* `Value.toText`: the text of a value in messages.
-/

/-- A pointer to a record. -/
structure Reference where
  entity : String
  id : Uuid
  /-- The name of the record, when the service sent it along. -/
  name : Option String
  deriving DecidableEq, Repr

/-- A code of an option set, with its label when that is known. -/
structure Choice where
  code : Int32
  label : Option String
  deriving DecidableEq, Repr

/-- A typed value. -/
inductive Value where
  | null
  | boolean (value : Option Bool)
  | int32 (value : Option Int32)
  | int64 (value : Option Int64)
  | double (value : Option Binary64)
  | decimal (value : Option Decimal)
  | money (value : Option Decimal)
  | text (value : Option String)
  | date (value : Option Date)
  | timestamp (value : Option Timestamp)
  | uuid (value : Option Uuid)
  | choice (value : Option Choice)
  | reference (value : Option Reference)
  deriving DecidableEq, Repr, Inhabited

/-- The kinds of values. -/
inductive ValueKind where
  | null
  | boolean
  | int32
  | int64
  | double
  | decimal
  | money
  | text
  | date
  | timestamp
  | uuid
  | choice
  | reference
  deriving DecidableEq, Repr

/-- The null of a kind. -/
def ValueKind.nullValue : ValueKind → Value
  | null => .null
  | boolean => .boolean none
  | int32 => .int32 none
  | int64 => .int64 none
  | double => .double none
  | decimal => .decimal none
  | money => .money none
  | text => .text none
  | date => .date none
  | timestamp => .timestamp none
  | uuid => .uuid none
  | choice => .choice none
  | reference => .reference none

namespace Value

/-- The kind of a value. -/
def kind : Value → ValueKind
  | null => .null
  | boolean _ => .boolean
  | int32 _ => .int32
  | int64 _ => .int64
  | double _ => .double
  | decimal _ => .decimal
  | money _ => .money
  | text _ => .text
  | date _ => .date
  | timestamp _ => .timestamp
  | uuid _ => .uuid
  | choice _ => .choice
  | reference _ => .reference

/-- The null of the same kind. -/
def toNull (v : Value) : Value :=
  v.kind.nullValue

/-- Whether a value is a null of any kind. -/
def isNull (v : Value) : Bool :=
  v == v.toNull

@[simp] theorem kind_nullValue (k : ValueKind) : k.nullValue.kind = k := by
  cases k <;> rfl

/-- The text of an integer. -/
def intText (n : Int) : String :=
  String.ofList (Json.intChars n)

/-- The text of a value. -/
def toText : Value → String
  | boolean (some b) => if b then "true" else "false"
  | int32 (some n) => intText n.toInt
  | int64 (some n) => intText n.toInt
  | double (some x) => x.toText Binary64.plainLayout
  | decimal (some d) => d.toText
  | money (some d) => d.toText
  | text (some s) => s
  | date (some d) => d.toText
  | timestamp (some t) => t.toText
  | uuid (some u) => u.toText
  | choice (some c) => intText c.code.toInt
  | reference (some r) => r.id.toText
  | _ => "null"

end Value

end RecordService
