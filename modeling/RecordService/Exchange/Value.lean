import RecordService.Coercion
import RecordService.Exchange.Basic

namespace RecordService.Exchange

/-!
# Exchange of values

A value is an object of its type and its content; the content of a null is null. Numbers that
JSON does not carry exactly are texts.
-/

/-! ### Results -/

/-- The name of a kind of value. -/
def valueKindName : ValueKind → String
  | .null => "Null"
  | .boolean => "Boolean"
  | .int32 => "Int32"
  | .int64 => "Int64"
  | .double => "Float64"
  | .decimal => "Decimal"
  | .money => "Money"
  | .text => "Varchar"
  | .date => "Date"
  | .timestamp => "Timestamp"
  | .uuid => "Uuid"
  | .choice => "OptionSet"
  | .reference => "Reference"

/-- The text of a double. -/
def binary64Text (x : Binary64) : String :=
  x.toText Binary64.dataLayout

/-- The content of a value. -/
def content : Value → Json
  | .boolean (some b) => .bool b
  | .int32 (some n) => .int n.toInt
  | .int64 (some n) => .string (Value.intText n.toInt)
  | .double (some x) => .string (binary64Text x)
  | .timestamp (some t) =>
    .array [.string t.toText, .string (Value.intText t.nanoseconds)]
  | .choice (some c) =>
    .object [("code", .int c.code.toInt), ("label", optional .string c.label)]
  | .reference (some r) =>
    .object
      [("entity", .string r.entity), ("id", .string r.id.toText),
       ("name", optional .string r.name)]
  | v => if v.isNull then .null else .string v.toText

/-- A value. -/
def value (v : Value) : Json :=
  .object [("type", .string (valueKindName v.kind)), ("value", content v)]

/-- A value and its text. -/
def valueAndText (v : Value) : Json :=
  .object [("value", value v), ("text", .string v.toText)]

/-- Loose data as text. -/
def looseText (j : Json) : Json :=
  .object [("loose", .string j.toText)]

/-! ### Inputs -/

/-- The failure to take an input for what it should be. -/
def undecodable {α : Type} : Answer α :=
  .error (.error [] .unworded)

/-- What has to be there. -/
def required {α : Type} : Option α → Answer α
  | some a => .ok a
  | none => undecodable

/-- An identifier. -/
def readUuid (j : Json) : Answer Uuid :=
  required (j.text?.bind Uuid.ofText?)

/-- An identifier that may be missing. -/
def readUuid? (j : Json) : Answer (Option Uuid) :=
  if j.isNull then .ok none else (readUuid j).map some

/-- A value of a type that is no null. -/
def readContent (type : String) (j : Json) : Answer Value :=
  let s := j.text?.getD ""
  match type with
  | "Boolean" => .ok (.boolean (some (asBool j)))
  | "Int32" => (required (asInt? j)).map fun n => .int32 (some (.ofInt n))
  | "Int64" =>
    match Text.readInt64 s with
    | .ok n => .ok (.int64 (some (.ofInt n)))
    | .error e => .error (.saying e.message)
  | "Float64" => (required (Binary64.ofText? s)).map fun x => .double (some x)
  | "Decimal" => (required (Decimal.ofText? s)).map fun d => .decimal (some d)
  | "Money" => (required (Decimal.ofText? s)).map fun d => .money (some d)
  | "Varchar" => .ok (.text (some s))
  | "Date" => (Date.read s).map fun d => .date (some d)
  | "Timestamp" => (Timestamp.read s).map fun t => .timestamp (some t)
  | "Uuid" => (readUuid j).map fun u => .uuid (some u)
  | "OptionSet" => .ok (.choice (some ⟨int32Of j "code", textOf? j "label"⟩))
  | "Reference" => do
    let id ← readUuid (j.member "id")
    return .reference (some ⟨textOf j "entity", id, textOf? j "name"⟩)
  | _ => .ok .null

/-- The kind of value of a name. -/
def valueKind? (name : String) : Option ValueKind :=
  [.null, .boolean, .int32, .int64, .double, .decimal, .money, .text, .date, .timestamp, .uuid,
    .choice, ValueKind.reference].find? (valueKindName · == name)

/-- A value. -/
def readValue (j : Json) : Answer Value :=
  let type := textOf j "type"
  match j.member "value" with
  | .null => (required (valueKind? type)).map (·.nullValue)
  | c => readContent type c

/-- A value that comes in, typed if it says so. -/
def readInputValue (j : Json) : Answer InputValue :=
  if hasMember j "$native" then (readValue (j.member "$native")).map .typed
  else .ok (.loose j)

end RecordService.Exchange
