import RecordService.Coercion.Rendering
import RecordService.Filter.Operator
import RecordService.Text.Cut

namespace RecordService

/-!
# Filters

Filters as they are written in loose data: conditions on attributes, and groups of filters. A map
of names is the conjunction of its conditions unless its only key is the name of a group; a list
of filters is their disjunction.

* `Filter`: the tree of a filter.
* `Filter.ofJson`: reads a filter.
-/

/-- The kinds of groups. -/
inductive GroupKind where
  | and
  | or
  /-- The negation of the conjunction of the children. -/
  | not
  /-- Exactly one of the two children. -/
  | xor
  deriving DecidableEq, Repr

namespace GroupKind

/-- The name of a kind, which is the key of its groups. -/
def name : GroupKind → String
  | and => "and"
  | or => "or"
  | not => "not"
  | xor => "xor"

/-- The kind of a key, ignoring ASCII case. -/
def ofKey? (key : String) : Option GroupKind :=
  [and, or, not, xor].find? fun kind => Text.eqIgnoreCase key kind.name

end GroupKind

/-- A filter. -/
inductive Filter where
  | condition (name : String) (operator : Operator) (operand : Json)
  | group (kind : GroupKind) (children : List Filter)
  deriving Repr, BEq

namespace Filter

/-- The failure to make sense of the shape of a filter. -/
def shapeFailure {α : Type} (message : String) : Answer α :=
  fail (.unsupportedFilterShape message)

/-! ### Conditions -/

/-- Read the members of a condition that names its operator. The last operator and the last
operand count. -/
def explicitCondition (name : String) :
    Operator → Json → List (String × Json) → Answer Filter
  | operator, operand, [] => .ok (condition name operator operand)
  | operator, operand, (key, value) :: rest =>
    match Text.lower key with
    | "operator" =>
      match value with
      | .string s => do explicitCondition name (← Operator.ofText s) operand rest
      | _ => shapeFailure ("the operator of `" ++ name ++ "` must be a string")
    | "value" => explicitCondition name operator value rest
    | "values" => explicitCondition name operator value rest
    | other =>
      fail <| .ambiguousFilter <|
        "unexpected key `" ++ other ++ "` in the condition on `" ++ name ++ "`"

/-- The condition of an attribute and what is written for it. -/
def ofMember (member : String × Json) : Answer Filter :=
  let (name, value) := member
  match value with
  | .object members =>
    if members.any (Text.eqIgnoreCase ·.1 "operator") then
      explicitCondition name .equal .null members
    else .ok (condition name .equal value)
  | .array _ => .ok (condition name .isIn value)
  | .null => .ok (condition name .null .null)
  | _ => .ok (condition name .equal value)

/-! ### Groups -/

/-- The first key that names a group. -/
def groupKey? (members : List (String × Json)) : Option (String × GroupKind) :=
  members.findSome? fun member => (GroupKind.ofKey? member.1).map (member.1, ·)

/-- The group of some children, if the kind takes their number. -/
def checkedGroup (kind : GroupKind) (children : List Filter) : Answer Filter :=
  if kind = .not ∧ children = [] then
    shapeFailure "a `not` group needs at least one child"
  else if kind = .xor ∧ children.length ≠ 2 then
    shapeFailure <|
      "a `xor` group needs exactly two children, found " ++ toString children.length
  else .ok (group kind children)

/-- The failure of a group key that has other keys beside it. -/
def mixedKeys (key : String) (members : List (String × Json)) : Answer Filter :=
  fail <| .ambiguousFilter <|
    "the group key `" ++ key ++ "` cannot be mixed with other keys (" ++
      ", ".intercalate ((members.map Prod.fst).filter (· != key)) ++ "), nest them in the group"

mutual

/-- Read a filter. -/
def ofJson : Json → Answer Filter
  | .object members => ofMap members
  | .array items => do return group .or (← ofItems items)
  | other =>
    shapeFailure <|
      "expected a map or a list of maps, found `" ++ Text.cutLong other.toText ++ "`"

/-- Read a map: a group if it has the key of one, or else a conjunction of conditions. -/
def ofMap : List (String × Json) → Answer Filter
  | [] => .ok (group .and [])
  | member :: rest =>
    match groupKey? (member :: rest) with
    | none => do return group .and (← (member :: rest).mapM ofMember)
    | some (key, kind) =>
      if rest.isEmpty then do checkedGroup kind (← childrenOf key member)
      else mixedKeys key (member :: rest)

/-- Read the children of the only member of a group. -/
def childrenOf (key : String) : String × Json → Answer (List Filter)
  | (_, value) => childrenIn key value

/-- Read the children of a group: a list of filters or a single map. -/
def childrenIn (key : String) : Json → Answer (List Filter)
  | .array items => ofItems items
  | .object members => do return [← ofMap members]
  | other =>
    shapeFailure <|
      "the `" ++ key ++ "` group expects a map or a list of maps, found `" ++
        Text.cutLong other.toText ++ "`"

/-- Read a list of filters. -/
def ofItems : List Json → Answer (List Filter)
  | [] => .ok []
  | item :: items => do
    let f ← ofJson item
    return f :: (← ofItems items)

end

end Filter

end RecordService
