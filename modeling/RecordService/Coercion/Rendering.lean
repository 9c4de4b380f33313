import RecordService.Column
import RecordService.Text.Grouped

namespace RecordService

/-!
# Rendering values as loose data

Values leave as JSON in one of three formats. The default keeps the shape of a value, the raw
format reduces a reference to its identifier, and the display format is text for people.

* `Value.toJson`: the default rendering.
* `Attribute.render`: a value of an attribute in any format.
-/

/-- A decimal as a JSON number if it is an integer of 64 bits or if a double holds it exactly,
and otherwise as text. -/
def Decimal.toJson (d : Decimal) : Json :=
  if d.isWhole ∧ -2 ^ 63 ≤ d.truncate ∧ d.truncate < 2 ^ 63 then .int d.truncate
  else
    match d.exactBinary64? with
    | some x => .double x
    | none => .string d.toText

/-- A reference as an object. -/
def Reference.toJson (r : Reference) : Json :=
  .object <|
    [("Id", .string r.id.toText), ("TableName", .string r.entity)] ++
      match r.name with
      | some name => [("Name", .string name)]
      | none => []

/-- The default rendering. -/
def Value.toJson : Value → Json
  | boolean (some b) => .bool b
  | int32 (some n) => .int n.toInt
  | int64 (some n) => .int n.toInt
  | double (some x) => .ofBinary64 x
  | decimal (some d) => d.toJson
  | money (some d) => d.toJson
  | text (some s) => .string s
  | date (some d) => .string d.toText
  | timestamp (some t) => .string t.toText
  | uuid (some u) => .string u.toText
  | choice (some c) => .int c.code.toInt
  | reference (some r) => r.toJson
  | _ => .null

/-- The raw rendering. -/
def Value.toRawJson : Value → Json
  | reference (some r) => .string r.id.toText
  | v => v.toJson

namespace Attribute

/-- The failure to render in a format that the attribute does not have. -/
def unsupported {α : Type} (a : Attribute) (format : ColumnFormat) : Answer α :=
  fail (.unsupportedFormat a.name format.name)

/-- A point in time for people. An attribute of dates shows the date, all others the time in
UTC; an instant whose date in UTC is outside the calendar cannot be shown. -/
def displayTimestamp (a : Attribute) (t : Timestamp) : Answer String :=
  if a.behavior = .dateOnly then .ok t.date.toText
  else
    match t.displayText? with
    | some s => .ok s
    | none => .error .breach

/-- A decimal for people, with the places of the attribute or else its own. -/
def displayDecimal (a : Attribute) (d : Decimal) : Answer String :=
  match d.toTextAt? (a.precision.getD d.scale) with
  | some s => .ok (Text.grouped s)
  | none => .error .breach

/-- The text of a value for people: labels for codes and truth values, groups of thousands for
numbers. -/
def displayText (a : Attribute) : Value → Answer String
  | .choice (some c) =>
    .ok <| (c.label <|> a.optionLabel? c.code).getD (Value.intText c.code.toInt)
  | .boolean (some b) =>
    .ok <| (a.optionLabel? (if b then 1 else 0)).getD (if b then "Yes" else "No")
  | .int32 (some n) => .ok (Text.grouped (Value.intText n.toInt))
  | .int64 (some n) => .ok (Text.grouped (Value.intText n.toInt))
  | .double (some x) => .ok (Text.grouped (x.toText Binary64.plainLayout))
  | .decimal (some d) => a.displayDecimal d
  | .money (some d) => a.displayDecimal d
  | .date (some d) => .ok d.toText
  | .timestamp (some t) => a.displayTimestamp t
  | .reference (some r) => .ok (r.name.getD r.id.toText)
  | _ => a.unsupported .display

/-- Types that have no display format. -/
def isPlain (a : Attribute) : Bool :=
  a.type == .string || a.type == .memo || a.type == .uniqueidentifier

/-- Render a value of an attribute. -/
def render (a : Attribute) (format : ColumnFormat) (v : Value) : Answer Json :=
  match format with
  | .default => .ok v.toJson
  | .raw => .ok v.toRawJson
  | .display =>
    if a.isPlain then a.unsupported .display
    else if v.isNull then .ok .null
    else (a.displayText v).map .string

end Attribute

end RecordService
