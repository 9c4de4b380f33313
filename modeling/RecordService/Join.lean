import RecordService.Filter.Criteria
import RecordService.Text.LowerCase

namespace RecordService

/-!
# Links

A link joins the records of an entity with those of another one by the values of two attributes,
and may have links of its own.

* `JoinType.ofText`: reads the kind of a join.
* `Link.referenceName`: the name by which conditions and columns refer to a link.
* `Link.check`: whether a tree of links hangs together.
-/

/-- Whether records without a counterpart are kept. -/
inductive JoinType where
  | inner
  | leftOuter
  deriving DecidableEq, Repr

namespace JoinType

/-- The name of a kind. -/
def name : JoinType → String
  | inner => "Inner"
  | leftOuter => "LeftOuter"

/-- The name of a kind in the XML dialect. -/
def xmlName : JoinType → String
  | inner => "inner"
  | leftOuter => "outer"

/-- The spellings that are read, as words in small letters. -/
def spellings : List (List String × JoinType) :=
  [(["inner"], inner), (["inner", "join"], inner), (["left"], leftOuter),
   (["left", "outer"], leftOuter), (["leftouter"], leftOuter), (["left", "join"], leftOuter),
   (["left", "outer", "join"], leftOuter), (["outer"], leftOuter)]

/-- Characters between words. -/
def isSeparator (c : Char) : Bool :=
  Text.isBlank c || c == '-' || c == '_'

/-- The words of a text in small letters. -/
def words (s : String) : List String :=
  let parts := s.toList.splitBy fun a b => isSeparator a == isSeparator b
  (parts.filter fun part => !part.all isSeparator).map
    fun part => Text.lower (String.ofList part)

/-- Read the kind of a join, ignoring case and what separates the words. -/
def ofText (s : String) : Answer JoinType :=
  match spellings.lookup (words s) with
  | some type => .ok type
  | none =>
    fail (.invalidJoin ("unknown join type `" ++ s ++ "`, expected Inner or LeftOuter"))

end JoinType

/-- A link from the records of one entity to those of another. -/
structure Link where
  fromEntity : String
  fromName : String
  toEntity : String
  toName : String
  type : JoinType
  /-- The name that the link goes by, if it is not that of its entity. -/
  label : Option String
  criteria : Criteria
  links : List Link
  /-- The attributes of the linked entity that are put out. -/
  columns : List String
  deriving Repr, BEq

namespace Link

/-- The label of a link, or else the name of its entity. -/
def referenceName (l : Link) : String :=
  l.label.getD l.toEntity

/-! ### Text -/

mutual

/-- The text of a link, nested links in brackets. -/
def toText : Link → String
  | ⟨fromEntity, fromName, toEntity, toName, type, label, criteria, links, _⟩ =>
    let named :=
      match label with
      | some label => " as " ++ label
      | none => ""
    let condition := if criteria.isEmpty then "" else " where " ++ criteria.toText
    type.name ++ " join " ++ toEntity ++ named ++ " on " ++ fromEntity ++ "." ++ fromName ++
      " = " ++ label.getD toEntity ++ "." ++ toName ++ condition ++ nestedText links

/-- The texts of nested links. -/
def nestedText : List Link → String
  | [] => ""
  | l :: ls => " [" ++ l.toText ++ "]" ++ nestedText ls

end

/-! ### Check -/

mutual

/-- Check that a link starts from its parent, and every nested one from the entity or from the
reference name of the link that it hangs from. -/
def check (parent : String) : Link → Answer Unit
  | ⟨fromEntity, _, toEntity, _, _, label, _, links, _⟩ =>
    if Text.eqIgnoreCase fromEntity parent then
      checkAll toEntity (label.getD toEntity) links
    else
      fail <| .invalidJoin <|
        "the link to `" ++ toEntity ++ "` starts from `" ++ fromEntity ++
          "` but hangs from `" ++ parent ++ "`"

/-- Check the links that hang from an entity with a reference name. -/
def checkAll (entity reference : String) : List Link → Answer Unit
  | [] => .ok ()
  | l :: ls => do
    check (if Text.eqIgnoreCase l.fromEntity entity then entity else reference) l
    checkAll entity reference ls

end

mutual

/-- The same links without columns. -/
def withoutColumns : Link → Link
  | ⟨fromEntity, fromName, toEntity, toName, type, label, criteria, links, _⟩ =>
    ⟨fromEntity, fromName, toEntity, toName, type, label, criteria, allWithoutColumns links, []⟩

/-- Some links without columns. -/
def allWithoutColumns : List Link → List Link
  | [] => []
  | l :: ls => l.withoutColumns :: allWithoutColumns ls

end

end Link

end RecordService
