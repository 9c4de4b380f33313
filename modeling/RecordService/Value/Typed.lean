import RecordService.Time.Reader
import RecordService.Value

namespace RecordService

/-!
# Typed reading of values

A value can be read as data of a fixed type when it has the kind of that type, or a kind from
which nothing is lost: a 64 bit integer may come from a value of 32 bits, an identifier from a
reference or a text.

* `Readable`: the types that values are read as and made of.
* `Value.read`: reads a value.
-/

/-- A type of data that values carry. -/
class Readable (α : Type) where
  /-- The kind that carries the type. -/
  kind : ValueKind
  toValue : α → Value
  ofValue : Value → Answer α

/-- Read a value as data of a type. -/
def Value.read (α : Type) [Readable α] (v : Value) : Answer α :=
  Readable.ofValue v

/-- The failure to read a value of a kind from which there is no way to the type. -/
def mismatched {α : Type} : Answer α :=
  .error (.error [] .unworded)

/-- A truth value; of integers all but zero are true. -/
instance : Readable Bool where
  kind := .boolean
  toValue b := .boolean (some b)
  ofValue
    | .boolean (some b) => .ok b
    | .int32 (some n) => .ok (n != 0)
    | .int64 (some n) => .ok (n != 0)
    | _ => mismatched

/-- An integer of 64 bits as one of 32 bits, if it fits. -/
def narrow? (n : Int64) : Option Int32 :=
  if -2 ^ 31 ≤ n.toInt ∧ n.toInt < 2 ^ 31 then some n.toInt32 else none

instance : Readable Int32 where
  kind := .int32
  toValue n := .int32 (some n)
  ofValue
    | .int32 (some n) => .ok n
    | .choice (some c) => .ok c.code
    | .int64 (some n) =>
      match narrow? n with
      | some m => .ok m
      | none =>
        .error (.saying ("Value " ++ Value.intText n.toInt ++ ": i64 is out of range for i32"))
    | _ => mismatched

instance : Readable Int64 where
  kind := .int64
  toValue n := .int64 (some n)
  ofValue
    | .int64 (some n) => .ok n
    | .int32 (some n) => .ok n.toInt64
    | .choice (some c) => .ok c.code.toInt64
    | _ => mismatched

instance : Readable Binary64 where
  kind := .double
  toValue x := .double (some x)
  ofValue
    | .double (some x) => .ok x
    | .int32 (some n) => .ok (.ofInt n.toInt)
    | .int64 (some n) => .ok (.ofInt n.toInt)
    | .decimal (some d) => .ok d.toBinary64
    | .money (some d) => .ok d.toBinary64
    | _ => mismatched

instance : Readable Decimal where
  kind := .decimal
  toValue d := .decimal (some d)
  ofValue
    | .decimal (some d) => .ok d
    | .money (some d) => .ok d
    | .int32 (some n) => .ok (.ofInt32 n)
    | .int64 (some n) => .ok (.ofInt64 n)
    | _ => mismatched

/-- A text, or the label of a choice. -/
instance : Readable String where
  kind := .text
  toValue s := .text (some s)
  ofValue
    | .text (some s) => .ok s
    | .choice (some ⟨_, some label⟩) => .ok label
    | _ => mismatched

instance : Readable Date where
  kind := .date
  toValue d := .date (some d)
  ofValue
    | .date (some d) => .ok d
    | .timestamp (some t) => .ok t.date
    | .text (some s) => Date.read s
    | _ => mismatched

instance : Readable Timestamp where
  kind := .timestamp
  toValue t := .timestamp (some t)
  ofValue
    | .timestamp (some t) => .ok t
    | .text (some s) => Timestamp.read s
    | _ => mismatched

instance : Readable Uuid where
  kind := .uuid
  toValue u := .uuid (some u)
  ofValue
    | .uuid (some u) => .ok u
    | .reference (some r) => .ok r.id
    | .text (some s) =>
      match Uuid.ofText? s with
      | some u => .ok u
      | none => mismatched
    | _ => mismatched

instance : Readable Choice where
  kind := .choice
  toValue c := .choice (some c)
  ofValue
    | .choice (some c) => .ok c
    | .int32 (some n) => .ok ⟨n, none⟩
    | _ => mismatched

instance : Readable Reference where
  kind := .reference
  toValue r := .reference (some r)
  ofValue
    | .reference (some r) => .ok r
    | _ => mismatched

/-- Data that may be missing; a null of any kind reads as missing. -/
instance {α : Type} [Readable α] : Readable (Option α) where
  kind := Readable.kind α
  toValue
    | some a => Readable.toValue a
    | none => (Readable.kind α).nullValue
  ofValue v := if v.isNull then .ok none else (v.read α).map some

end RecordService
