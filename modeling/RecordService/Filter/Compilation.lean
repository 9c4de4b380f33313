import RecordService.Coercion
import RecordService.Filter
import RecordService.Filter.Criteria

namespace RecordService

/-!
# Compilation of filters

A filter becomes criteria, which have no negation. Negation is pushed down to the conditions: a
negated condition has the inverse operator, or else the attribute is null, so that it holds
exactly where the condition does not.

* `Filter.Target`: what is known of the entity that is filtered.
* `Filter.compileNode`: a filter under a polarity.
* `Filter.compile`: the criteria of a filter.
-/

namespace Filter

/-- What is known of the entity that a filter is compiled for. -/
structure Target where
  /-- The metadata by which values are typed. -/
  metadata : Option Entity
  /-- The name of the entity, which serves when there are no metadata. -/
  entity : Option String
  /-- The link that the conditions are about, if it is not the root. -/
  owner : Option String

/-- A compiled filter: one condition or a group. -/
inductive Compiled where
  | condition (c : Condition)
  | group (f : Criteria)

/-- The conditions among compiled filters. -/
def Compiled.conditions (parts : List Compiled) : List Condition :=
  parts.filterMap fun
    | condition c => some c
    | group _ => none

/-- The groups among compiled filters. -/
def Compiled.groups (parts : List Compiled) : List Criteria :=
  parts.filterMap fun
    | condition _ => none
    | group f => some f

/-- The group of compiled filters. -/
def Compiled.join (connective : Connective) (parts : List Compiled) : Criteria :=
  ⟨connective, conditions parts, groups parts⟩

/-! ### Conditions -/

/-- The owner that a name says before its first point, and the attribute. -/
def splitOwner (name : String) : Option String × String :=
  match name.toList.span (· != '.') with
  | (_, []) => (none, name)
  | (owner, _ :: rest) => (some (String.ofList owner), String.ofList rest)

namespace Target

/-- The value of loose data for an attribute of the entity. -/
def valueOf (t : Target) (name : String) (j : Json) : Answer Value :=
  match t.metadata with
  | none => j.guess
  | some e =>
    match e.attribute? name with
    | some a => a.coerceJson j
    | none => fail (.unknownAttribute e.name name)

/-- The values of loose data that may be typed or not. -/
def valueFor (t : Target) (isTyped : Bool) (name : String) (j : Json) : Answer Value :=
  if isTyped then t.valueOf name j else j.guess

/-- The operator and the values of a condition. Equality with null becomes a test for null. -/
def operands (name : String) (operator : Operator) (operand : Json)
    (toValue : Json → Answer Value) : Answer (Operator × List Value) :=
  match operator with
  | .null => .ok (.null, [])
  | .notNull => .ok (.notNull, [])
  | .isIn => do return (.isIn, ← (members operand).mapM toValue)
  | .notIn => do return (.notIn, ← (members operand).mapM toValue)
  | .like => pattern .like
  | .notLike => pattern .notLike
  | operator =>
    match operand with
    | .array _ =>
      mismatch ("`" ++ operator.name ++ "` expects a single value, use In for lists")
    | operand => do
      let v ← toValue operand
      if !v.isNull then return (operator, [v])
      else if operator = .equal then return (.null, [])
      else if operator = .notEqual then return (.notNull, [])
      else mismatch ("`" ++ operator.name ++ "` cannot compare with null")
where
  /-- The failure to use the operand. -/
  mismatch (message : String) : Answer (Operator × List Value) :=
    fail (.typeMismatch name message)
  /-- The items of a list; null stands for no items. -/
  members : Json → List Json
    | .array items => items
    | .null => []
    | item => [item]
  /-- The operand of a text pattern. -/
  pattern (operator : Operator) : Answer (Operator × List Value) :=
    match operand with
    | .string s => .ok (operator, [.text (some s)])
    | other =>
      mismatch <|
        "`" ++ operator.name ++ "` expects a text pattern, found `" ++ other.toText ++ "`"

/-- The condition that no record meets, or under which all do when negated. -/
def nothing (t : Target) (kind : GroupKind) : Answer Compiled :=
  let primaryId? := (t.metadata.map (·.primaryId)) <|> t.entity.map Entity.defaultPrimaryId
  match primaryId? with
  | some primaryId => .ok (.condition ⟨t.owner, primaryId, .null, []⟩)
  | none =>
    shapeFailure <|
      "the negation of an empty `" ++ kind.name ++
        "` group matches no record, which needs the name of the filtered entity"

/-- Compile a condition. Under negation a comparison also holds for null. -/
def condition (t : Target) (name : String) (operator : Operator) (operand : Json)
    (negated : Bool) : Answer Compiled := do
  let (owner?, name) := splitOwner name
  let owner := owner? <|> t.owner
  let isTyped := owner.isNone || owner == t.owner
  let (operator, values) ← operands name operator operand (t.valueFor isTyped name)
  return (
    if !negated then .condition ⟨owner, name, operator, values⟩
    else if operator.isUnary then .condition ⟨owner, name, operator.inverse, values⟩
    else
      .group ⟨.or, [⟨owner, name, operator.inverse, values⟩, ⟨owner, name, .null, []⟩], []⟩)

end Target

/-! ### Groups -/

/-- The connective of a group of a given one under a polarity. -/
def polarized (c : Connective) (negated : Bool) : Connective :=
  if negated then c.dual else c

mutual

/-- Compile a filter, or its negation. Exactly one of two filters holds if one of them does and
not both do. -/
def compileNode (t : Target) (f : Filter) (negated : Bool) : Answer Compiled :=
  match f with
  | .condition name operator operand => t.condition name operator operand negated
  | .group .and children =>
    if negated && children.isEmpty then t.nothing .and
    else do return .group (Compiled.join (polarized .and negated) (← compileAll t children negated))
  | .group .or children =>
    if negated && children.isEmpty then t.nothing .or
    else do return .group (Compiled.join (polarized .or negated) (← compileAll t children negated))
  | .group .not children =>
    if children.isEmpty then shapeFailure "a `not` group needs at least one child"
    else do
      return .group (Compiled.join (polarized .and !negated) (← compileAll t children !negated))
  | .group .xor children =>
    if children.length ≠ 2 then
      shapeFailure <|
        "a `xor` group needs exactly two children, found " ++ toString children.length
    else do
      let one ← compileAll t children negated
      let other ← compileAll t children !negated
      let inner := polarized .or negated
      return .group ⟨polarized .and negated, [], [Compiled.join inner one, Compiled.join inner other]⟩

/-- Compile some filters, or their negations. -/
def compileAll (t : Target) (fs : List Filter) (negated : Bool) : Answer (List Compiled) :=
  match fs with
  | [] => .ok []
  | f :: fs => do
    let first ← compileNode t f negated
    return first :: (← compileAll t fs negated)

end

/-- The criteria of a filter. -/
def compile (t : Target) (f : Filter) : Answer Criteria := do
  match ← compileNode t f false with
  | .condition c => return .ofConditions [c]
  | .group f => return f

/-- The criteria of a filter written in loose data. -/
def compileJson (t : Target) (j : Json) : Answer Criteria := do
  compile t (← ofJson j)

end Filter

end RecordService
