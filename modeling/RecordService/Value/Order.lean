import RecordService.Number.Decimal.Reader
import RecordService.Text.LowerCase
import RecordService.Time.Reader
import RecordService.Value

namespace RecordService.Value

/-!
# Comparing values

Values of different kinds compare by what they stand for: numbers by value whatever their width,
references by their identifier, and text after it has been read as what it is compared with.
A null compares with nothing.

* `Value.number?`: the numeric view, `Value.identifier?`: the view as an identifier.
* `Value.compare?`: the comparison, if there is one.
* `Value.looseEq`: equality by it.
-/

/-- The number that a value stands for. -/
def number? : Value → Option Decimal
  | int32 (some n) => some (.ofInt32 n)
  | int64 (some n) => some (.ofInt64 n)
  | double (some x) => Decimal.ofBinary64? x
  | decimal (some d) => some d
  | money (some d) => some d
  | choice (some c) => some (.ofInt32 c.code)
  | boolean (some b) => some (.ofInt32 (if b then 1 else 0))
  | text (some s) => Decimal.ofText? (Text.trim s)
  | _ => none

/-- The identifier that a value stands for. -/
def identifier? : Value → Option Uuid
  | uuid (some u) => some u
  | reference (some r) => some r.id
  | text (some s) => Uuid.ofText? (Text.trim s)
  | _ => none

/-- The number of a value as a double. -/
def binary64? (v : Value) : Option Binary64 :=
  v.number?.map Decimal.toBinary64

/-- The order of texts, letter case aside. -/
def compareText (a b : String) : Ordering :=
  Ord.compare (Text.lower a) (Text.lower b)

/-- Comparison as identifiers, or else as numbers. -/
def compareViews? (a b : Value) : Option Ordering :=
  match a.identifier?, b.identifier? with
  | some x, some y => some (x.compare y)
  | _, _ =>
    match a.number?, b.number? with
    | some x, some y => some (x.compare y)
    | _, _ => none

/-- Comparison of a date with a text. -/
def compareDate? (d : Date) (s : String) : Option Ordering :=
  (Date.ofText? s).map d.compare

/-- Comparison of a timestamp with a text. -/
def compareTimestamp? (t : Timestamp) (s : String) : Option Ordering :=
  (Timestamp.ofText? s).map t.compare

/-- Comparison of a choice with a text, which is a code if it reads as one, and otherwise a
label. -/
def compareChoice? (c : Choice) (s : String) : Option Ordering :=
  match Text.readInt32 (Text.trim s) with
  | .error _ => c.label.map (compareText · s)
  | .ok _ => compareViews? (choice (some c)) (text (some s))

/-- Comparison of two values. -/
def compare? : Value → Value → Option Ordering
  | text (some a), text (some b) => some (compareText a b)
  | boolean (some a), boolean (some b) => some (Ord.compare a b)
  | date (some a), date (some b) => some (a.compare b)
  | timestamp (some a), timestamp (some b) => some (a.compare b)
  | date (some a), timestamp (some b) => some (a.compare b.date)
  | timestamp (some a), date (some b) => some (a.date.compare b)
  | date (some a), text (some b) => compareDate? a b
  | text (some a), date (some b) => (compareDate? b a).map Ordering.swap
  | timestamp (some a), text (some b) => compareTimestamp? a b
  | text (some a), timestamp (some b) => (compareTimestamp? b a).map Ordering.swap
  | choice (some a), text (some b) => compareChoice? a b
  | text (some a), choice (some b) => (compareChoice? b a).map Ordering.swap
  | a, b => compareViews? a b

/-- Equality by comparison. A null equals nothing. -/
def looseEq (a b : Value) : Bool :=
  a.compare? b == some .eq

end RecordService.Value
