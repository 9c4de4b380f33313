import RecordService.Failure
import RecordService.Metadata

namespace RecordService

/-!
# Columns

An output column is the name of an attribute with an optional format behind a colon.

* `Column.ofText`: reads `name`, `name:Raw` or `name:Display`.
* `Column.outputName`: the name under which the column is put out.
* `Entity.columnNames`: the names of all readable attributes in order.
-/

/-- How a column renders its values. -/
inductive ColumnFormat where
  | default
  | raw
  | display
  deriving DecidableEq, Repr

/-- The name of a format. -/
def ColumnFormat.name : ColumnFormat → String
  | default => "Default"
  | raw => "Raw"
  | display => "Display"

/-- An output column. -/
structure Column where
  name : String
  format : ColumnFormat
  deriving DecidableEq, Repr

/-- The attributes asked of the service. -/
inductive ColumnSet where
  | all
  | only (names : List String)
  deriving DecidableEq, Repr

/-- Whether a set asks for an attribute. -/
def ColumnSet.contains (s : ColumnSet) (name : String) : Bool :=
  match s with
  | all => true
  | only names => names.any (Text.eqIgnoreCase · name)

namespace Column

/-- Split a text at the last occurrence of a character. -/
def splitLast? (mark : Char) (s : String) : Option (String × String) :=
  match s.toList.reverse.span (· != mark) with
  | (_, []) => none
  | (after, _ :: before) =>
    some (String.ofList before.reverse, String.ofList after.reverse)

/-- Read a column. The attribute is not looked up. -/
def ofText (s : String) : Answer Column :=
  match splitLast? ':' s with
  | none => .ok ⟨Text.trim s, .default⟩
  | some (name, format) =>
    let name := Text.trim name
    match Text.lower (Text.trim format) with
    | "raw" => .ok ⟨name, .raw⟩
    | "display" => .ok ⟨name, .display⟩
    | "" => .ok ⟨name, .default⟩
    | "default" => .ok ⟨name, .default⟩
    | _ =>
      fail <| .format <|
        "Unknown column format `" ++ format ++ "` in `" ++ s ++ "`, expected Raw or Display"

/-- The name of the column in output records. -/
def outputName (c : Column) : String :=
  match c.format with
  | .default => c.name
  | format => c.name ++ ":" ++ format.name

end Column

/-! ### All columns of an entity -/

/-- Attributes that the service maintains by itself. -/
def systemAttributes : List String :=
  ["createdby", "createdon", "createdonbehalfby", "importsequencenumber", "modifiedby",
   "modifiedon", "modifiedonbehalfby", "organizationid", "overriddencreatedon",
   "owningbusinessunit", "owningteam", "owninguser", "timezoneruleversionnumber",
   "utcconversiontimezonecode", "versionnumber", "traversedpath"]

/-- Whether a name is one of some names, the case of ASCII letters aside. -/
def isNameIn (names : List String) (name : String) : Bool :=
  names.any (Text.eqIgnoreCase · name)

/-- The names of the readable attributes in order, without the excluded ones, and without those
that the service maintains unless they are wanted. -/
def Entity.columnNames (e : Entity) (withSystem : Bool) (excluded : List String) : List String :=
  let names := (e.attributes.filter (·.validForRead)).map (·.name)
  let names := names.filter fun name =>
    (withSystem || !isNameIn systemAttributes name) && !isNameIn excluded name
  names.mergeSort fun a b => !(b < a)

end RecordService
