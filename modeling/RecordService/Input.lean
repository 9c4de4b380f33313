import RecordService.Coercion
import RecordService.Record

namespace RecordService

/-!
# Input records

One record as it comes in: names with loose or typed values, in order.
-/

/-- A record that comes in. -/
structure Input where
  values : Dict InputValue
  deriving Repr

namespace Input

/-- An input record from an object. -/
def ofJson (j : Json) : Answer Input :=
  match j with
  | .object members => .ok ⟨(Dict.ofList members).map .loose⟩
  | j =>
    fail <| .format <|
      "Expected an object as input record, found `" ++ j.toText ++ "`"

/-- The value of a name, ignoring ASCII case when no entry has exactly that name. -/
def get? (i : Input) (name : String) : Option InputValue :=
  i.values.getIgnoreCase? name

/-- An input record as loose data. -/
def toJson (i : Input) : Json :=
  .ofDict (i.values.map InputValue.toJson)

/-- The text of an input record. -/
def toText (i : Input) : String :=
  i.toJson.toText

end Input

end RecordService
