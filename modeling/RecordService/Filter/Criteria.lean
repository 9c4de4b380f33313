import RecordService.Filter.Operator
import RecordService.Value

namespace RecordService

/-!
# Criteria

The filter tree that the service understands: groups of conditions joined by `and` or by `or`.
A group without conditions and groups selects every record, whatever its connective.

* `Criteria.andAlso`: the conjunction of two trees.
* `Criteria.conditionCount`: the number of conditions in a tree.
* `Criteria.toText`: the text of a tree in messages.
-/

/-- A condition on one attribute. -/
structure Condition where
  /-- The link that has the attribute, by the name that it goes by; none for the root. -/
  owner : Option String
  name : String
  operator : Operator
  values : List Value
  deriving DecidableEq, Repr

/-- How the members of a group are joined. -/
inductive Connective where
  | and
  | or
  deriving DecidableEq, Repr

/-- The name of a connective. -/
def Connective.name : Connective → String
  | and => "and"
  | or => "or"

/-- The connective of the negated group. -/
def Connective.dual : Connective → Connective
  | and => or
  | or => and

/-- A group of conditions and groups. -/
structure Criteria where
  connective : Connective
  conditions : List Condition
  filters : List Criteria
  deriving Repr, BEq

/-- The text of a condition. A list of values, or a single one of an operator that takes lists,
stands in parentheses. -/
def Condition.toText (c : Condition) : String :=
  let ownerText :=
    match c.owner with
    | some owner => owner ++ "."
    | none => ""
  let listed := " (" ++ ", ".intercalate (c.values.map Value.toText) ++ ")"
  let operand :=
    match c.values with
    | [] => ""
    | [v] => if c.operator.isMembership then listed else " " ++ v.toText
    | _ => listed
  ownerText ++ c.name ++ " " ++ c.operator.name ++ operand

namespace Criteria

/-- The criteria that every record meets. -/
def always : Criteria :=
  ⟨.and, [], []⟩

instance : Inhabited Criteria := ⟨always⟩

/-- The conjunction of some conditions. -/
def ofConditions (conditions : List Condition) : Criteria :=
  ⟨.and, conditions, []⟩

/-- Whether a group has nothing in it. -/
def isEmpty (f : Criteria) : Bool :=
  f.conditions.isEmpty && f.filters.isEmpty

/-- The conjunction of two groups. An empty side is dropped, and an `and` on the left side takes
the right side in. -/
def andAlso (f g : Criteria) : Criteria :=
  if g.isEmpty then f
  else if f.isEmpty then g
  else
    match f.connective with
    | .and => { f with filters := f.filters ++ [g] }
    | .or => ⟨.and, [], [f, g]⟩

mutual

/-- The number of conditions in a tree. -/
def conditionCount : Criteria → Nat
  | ⟨_, conditions, filters⟩ => conditions.length + conditionCountAll filters

/-- The number of conditions in some trees. -/
def conditionCountAll : List Criteria → Nat
  | [] => 0
  | f :: fs => f.conditionCount + conditionCountAll fs

end

mutual

/-- The text of a tree. -/
def toText : Criteria → String
  | ⟨connective, conditions, filters⟩ =>
    if conditions.isEmpty && filters.isEmpty then "true"
    else
      "(" ++ (" " ++ connective.name ++ " ").intercalate
        (conditions.map Condition.toText ++ textsOf filters) ++ ")"

/-- The texts of some trees. -/
def textsOf : List Criteria → List String
  | [] => []
  | f :: fs => f.toText :: textsOf fs

end

end Criteria

end RecordService
