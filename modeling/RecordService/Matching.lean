import RecordService.Input
import RecordService.Reading.Pages

namespace RecordService

/-!
# Matching of inputs

The records that an input stands for are those that agree with it on some attributes. Attributes
that the input does not have take no part; a null agrees with nulls.

* `Input.matchConditions`: the conditions that an input sets.
* `Input.matches`: the records that meet them.
-/

variable {σ : Type}

/-- The condition that an attribute has a value. -/
def Attribute.agrees (a : Attribute) (v : Value) : Condition :=
  if v.isNull then ⟨none, a.name, .null, []⟩ else ⟨none, a.name, .equal, [v]⟩

namespace Input

/-- The condition that an input sets by one of its values. -/
def matchCondition (e : Entity) (i : Input) (name : String) (x : InputValue) : Answer Condition :=
  match e.attribute? name with
  | none => fail (.unknownAttribute e.name name)
  | some a => do
    let v ← inContext ("While matching `" ++ name ++ "` of " ++ i.toText) (a.coerce x)
    return a.agrees v

/-- The conditions that an input sets by those of some attributes that it has. -/
def matchConditions (e : Entity) (i : Input) : List String → Answer (List Condition)
  | [] => .ok []
  | name :: names =>
    match i.get? name with
    | none => matchConditions e i names
    | some x => do
      let condition ← i.matchCondition e name x
      return condition :: (← matchConditions e i names)

/-- The query for the records that meet some conditions. -/
def matchQuery (e : Entity) (conditions : List Condition) : Query :=
  { Query.ofEntity e.name with
    columns := .only (e.primaryId :: conditions.map (·.name))
    criteria := .ofConditions conditions }

/-- All records of a query. -/
def allMatches (service : Service σ) (q : Query) : Call σ (List Record) := do
  let result ← service.query q
  return result.records ++ (← q.afterFirst service result)

/-- The records that agree with an input on those of some attributes that it has. More than one
is a failure unless that is allowed. -/
def matchesOn (service : Service σ) (e : Entity) (i : Input) (names : List String)
    (allowMultiple : Bool) : Call σ (List Record) := do
  let conditions ← Call.ofAnswer (i.matchConditions e names)
  if conditions.isEmpty then return []
  let q := matchQuery e conditions
  Call.note (debugLine ("Matching " ++ i.toText ++ " with " ++ q.toXml))
  let found ← allMatches service q
  if !allowMultiple && found.length > 1 then
    throw (.of (.multipleMatches (conditions.map (·.name)) found.length))
  return found

end Input

end RecordService
