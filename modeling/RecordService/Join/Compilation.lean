import RecordService.Filter.Compilation
import RecordService.Join
import RecordService.Journal

namespace RecordService

/-!
# Compilation of joins

A join in loose data is a map with one pair of qualified attributes, `entity.attribute` on both
sides in either order, and with keys for the kind, the label, the columns, the filter and the
nested joins.

* `Link.ofJson`: the link of a join in loose data.
* `JoinInput.compile`: a join of either form.
* `Link.journal`: what the compilation of a join notes.
-/

/-- A join as it comes in: a link, or a map. -/
inductive JoinInput where
  | native (link : Link)
  | loose (json : Json)

namespace Link

/-- The failure of a join that makes no sense. -/
def invalid {α : Type} (message : String) : Answer α :=
  fail (.invalidJoin message)

/-! ### The pair of attributes -/

/-- The keys of a join that are no pair. -/
def reservedKeys : List String :=
  ["type", "alias", "filter", "links", "columns"]

/-- Split a qualified attribute into entity and attribute. -/
def splitQualified (s place : String) : Answer (String × String) :=
  match Filter.splitOwner s with
  | (some entity, name) =>
    if entity.isEmpty || name.isEmpty then unqualified
    else .ok (Text.trim entity, Text.trim name)
  | (none, _) => unqualified
where
  /-- The failure of a text without both parts. -/
  unqualified : Answer (String × String) :=
    invalid ("expected `entity.attribute` in " ++ place ++ ", found `" ++ s ++ "`")

/-- The pair of a join. -/
def pairOf (members : List (String × Json)) : Answer (String × String) :=
  match members.filter fun member => !isNameIn reservedKeys member.1 with
  | [(key, .string target)] => .ok (key, target)
  | [(key, target)] =>
    invalid <|
      "the target of `" ++ key ++ "` must be an `entity.attribute` string, found `" ++
        target.toText ++ "`"
  | [] =>
    invalid <|
      "no `entity.attribute` pair in the join `" ++
        Text.cutLong (Json.object members).toText ++ "`"
  | pairs =>
    fail <| .ambiguousJoin <|
      "a join must have exactly one `entity.attribute` pair, found " ++
        ", ".intercalate (pairs.map Prod.fst)

/-- The two sides of a pair, the linking one first. -/
def orient (parents : List String) (left right : String × String) :
    Answer ((String × String) × (String × String)) :=
  if isNameIn parents left.1 then .ok (left, right)
  else if isNameIn parents right.1 then .ok (right, left)
  else
    invalid <|
      "neither `" ++ left.1 ++ "` nor `" ++ right.1 ++ "` is the linking entity `" ++
        "` or `".intercalate parents ++ "`"

/-! ### The other keys -/

/-- The value of a key, ignoring ASCII case. -/
def keyed? (members : List (String × Json)) (key : String) : Option Json :=
  (members.find? fun member => Text.eqIgnoreCase member.1 key).map Prod.snd

/-- The kind of a join. -/
def typeOf : Option Json → Answer JoinType
  | none => .ok .inner
  | some (.string s) => JoinType.ofText s
  | some other => invalid ("the join type must be a string, found `" ++ other.toText ++ "`")

/-- The label of a join. -/
def labelOf : Option Json → Answer (Option String)
  | none => .ok none
  | some .null => .ok none
  | some (.string s) => if s.isEmpty then invalidLabel (.string s) else .ok (some s)
  | some other => invalidLabel other
where
  /-- The failure of a label that is no name. -/
  invalidLabel (j : Json) : Answer (Option String) :=
    invalid ("the join alias must be a string, found `" ++ j.toText ++ "`")

/-- A column of a join. -/
def columnOf : Json → Answer String
  | .string s => .ok s
  | other => invalid ("the join columns must be strings, found `" ++ other.toText ++ "`")

/-- The columns of a join. -/
def columnsOf : Option Json → Answer (List String)
  | some (.array items) => items.mapM columnOf
  | some (.string s) => .ok [s]
  | _ => .ok []

/-- The criteria of a link that is complete but for them and for its nested links. -/
def criteriaOf (catalog : Catalog) (l : Link) : Option Json → Answer Criteria
  | none => .ok .always
  | some .null => .ok .always
  | some filter =>
    inContext ("While compiling the filter of " ++ l.toText) <|
      Filter.compileJson ⟨catalog.entity? l.toEntity, some l.toEntity, none⟩ filter

/-- The link of a map without its nested links. -/
def head (catalog : Catalog) (parents : List String) (members : List (String × Json)) :
    Answer Link := do
  let (key, target) ← pairOf members
  let left ← splitQualified key "the join key"
  let right ← splitQualified target "the join target"
  let (source, target) ← orient parents left right
  let type ← typeOf (keyed? members "type")
  let label ← labelOf (keyed? members "alias")
  let columns ← columnsOf (keyed? members "columns")
  let link : Link :=
    ⟨source.1, source.2, target.1, target.2, type, label, .always, [], columns⟩
  return { link with criteria := ← criteriaOf catalog link (keyed? members "filter") }

/-- The names that a nested join may link from. -/
def parentNames (l : Link) : List String :=
  [l.toEntity, l.referenceName]

/-! ### Trees of joins -/

/-- Whether a value is an object. -/
def isMap : Json → Bool
  | .object _ => true
  | _ => false

mutual

/-- The link of a join that hangs from one of some names. -/
def ofJson (catalog : Catalog) (parents : List String) : Json → Answer Link
  | .object members => do
    let link ← head catalog parents members
    return { link with links := ← nestedIn catalog link.parentNames members }
  | other => invalid ("expected a join map, found `" ++ Text.cutLong other.toText ++ "`")

/-- The links of the nested joins of a map. -/
def nestedIn (catalog : Catalog) (parents : List String) :
    List (String × Json) → Answer (List Link)
  | [] => .ok []
  | member :: rest =>
    if Text.eqIgnoreCase member.1 "links" then nestedOf catalog parents member
    else nestedIn catalog parents rest

/-- The links of the member for nested joins: a list of joins or a single one. -/
def nestedOf (catalog : Catalog) (parents : List String) : String × Json → Answer (List Link)
  | (_, .array items) => ofItems catalog parents items
  | (_, j) => if isMap j then do return [← ofJson catalog parents j] else .ok []

/-- The links of some joins. -/
def ofItems (catalog : Catalog) (parents : List String) : List Json → Answer (List Link)
  | [] => .ok []
  | item :: items => do
    let link ← ofJson catalog parents item
    return link :: (← ofItems catalog parents items)

end

/-! ### Journal -/

/-- The line that a compiled join leaves. -/
def journalLine (l : Link) : JournalLine :=
  debugLine ("Compiled join " ++ l.toText)

mutual

/-- The lines that the compilation of a join leaves. -/
def journal (catalog : Catalog) (parents : List String) : Json → List JournalLine
  | .object members =>
    match head catalog parents members with
    | .error _ => []
    | .ok link =>
      journalIn catalog link.parentNames members ++
        match ofJson catalog parents (.object members) with
        | .ok link => [link.journalLine]
        | .error _ => []
  | _ => []

/-- The lines that the nested joins of a map leave. -/
def journalIn (catalog : Catalog) (parents : List String) :
    List (String × Json) → List JournalLine
  | [] => []
  | member :: rest =>
    if Text.eqIgnoreCase member.1 "links" then journalOf catalog parents member
    else journalIn catalog parents rest

/-- The lines that the member for nested joins leaves. -/
def journalOf (catalog : Catalog) (parents : List String) : String × Json → List JournalLine
  | (_, .array items) => journalItems catalog parents items
  | (_, j) => if isMap j then journal catalog parents j else []

/-- The lines that some joins leave, up to the first that fails. -/
def journalItems (catalog : Catalog) (parents : List String) : List Json → List JournalLine
  | [] => []
  | item :: items =>
    journal catalog parents item ++
      match ofJson catalog parents item with
      | .ok _ => journalItems catalog parents items
      | .error _ => []

end

end Link

namespace JoinInput

/-- The link of a join that hangs from a parent. -/
def compile (catalog : Catalog) (parent : String) : JoinInput → Answer Link
  | native link => do
    link.check parent
    return link
  | loose j => Link.ofJson catalog [parent] j

/-- The lines that the compilation of a join leaves. -/
def journal (catalog : Catalog) (parent : String) : JoinInput → List JournalLine
  | native _ => []
  | loose j => Link.journal catalog [parent] j

end JoinInput

end RecordService
