import RecordService.Number.Binary64
import RecordService.Dict

namespace RecordService

/-!
# JSON values

Loose data. The members of an object keep their order. Numbers without a point and an exponent
are integers as long as they fit 64 bits, all others are doubles.

* `Json.member?`: the value of a member.
* `Json.int64?`, `Json.binary64?`: the numeric views of a number.
-/

/-- A JSON value. -/
inductive Json where
  | null
  | bool (value : Bool)
  | int (value : Int)
  | double (value : Binary64)
  | string (value : String)
  | array (items : List Json)
  | object (members : List (String × Json))
  deriving Repr, BEq, Inhabited

namespace Json

/-- Whether the value is null. -/
def isNull : Json → Bool
  | null => true
  | _ => false

/-- The text of a string. -/
def text? : Json → Option String
  | string s => some s
  | _ => none

/-- The value of the member with exactly the given name, null when there is none. -/
def member (j : Json) (name : String) : Json :=
  match j with
  | object members => (members.lookup name).getD null
  | _ => null

/-- The items of a list, none for any other value. -/
def items : Json → List Json
  | array items => items
  | _ => []

/-- An object of members of which no two share a name. -/
def ofDict (d : Dict Json) : Json :=
  object d.entries

/-- The value of an integer of 64 bits with a sign. -/
def int64? : Json → Option Int64
  | int n => if -2 ^ 63 ≤ n ∧ n < 2 ^ 63 then some (Int64.ofInt n) else none
  | _ => none

/-- A number as the nearest double. -/
def binary64? : Json → Option Binary64
  | int n => some (Binary64.ofInt n)
  | double x => some x
  | _ => none

/-- A double as a number, null for what JSON has no number for. -/
def ofBinary64 (x : Binary64) : Json :=
  if x.isFinite then double x else null

mutual

/-- How deep a value is nested. -/
def depth : Json → Nat
  | array items => itemsDepth items + 1
  | object members => membersDepth members + 1
  | _ => 1

/-- The greatest depth among items. -/
def itemsDepth : List Json → Nat
  | [] => 0
  | item :: items => max item.depth (itemsDepth items)

/-- The greatest depth among members. -/
def membersDepth : List (String × Json) → Nat
  | [] => 0
  | (_, value) :: members => max value.depth (membersDepth members)

end

end Json

end RecordService
