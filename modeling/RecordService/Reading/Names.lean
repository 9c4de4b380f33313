import RecordService.Column
import RecordService.Service
import RecordService.Text.Quoted

namespace RecordService

/-!
# Names of referenced records

The name of the record that a reference points to is asked of the service once and then
remembered, also when there is none.

* `NameCache`: the names that are known.
* `Reference.fetchName`: the name of a referenced record.
-/

/-- The names of records, by their entities in small letters and their identities. -/
abbrev NameCache := List ((String × Uuid) × Option String)

/-- Calls that remember names. What was learned before a failure stays known. -/
abbrev Naming (σ : Type) := ExceptT Failure (StateT NameCache (StateM (World σ)))

variable {σ α : Type}

/-- A call without names. -/
def Naming.ofCall (c : Call σ α) : Naming σ α :=
  ExceptT.mk (StateT.lift c.run)

namespace Reference

/-- What a reference is remembered by. -/
def cacheKey (r : Reference) : String × Uuid :=
  (Text.lower r.entity, r.id)

/-- The text of a name in the journal. -/
def nameText : Option String → String
  | some name => "Some(" ++ Text.quoted name ++ ")"
  | none => "None"

/-- The text of an attribute, if it has one. -/
def textOf (r : Record) (name : String) : Option String :=
  match r.get? name with
  | some (.text s) => s
  | _ => none

/-- The name of a referenced record as the service has it. -/
def askName (service : Service σ) (r : Reference) : Call σ (Option String) := do
  let e ← service.metadata r.entity
  let name ←
    match e.primaryName with
    | none => pure none
    | some primaryName =>
      let found ← service.retrieve r.entity r.id (.only [primaryName])
      pure (found.bind (textOf · primaryName))
  Call.note <| debugLine <|
    "Resolved the name of " ++ r.entity ++ "(" ++ r.id.toText ++ ") to " ++ nameText name
  return name

/-- The name of a referenced record: the one that the reference has, the one that is remembered,
or the one that the service has. -/
def fetchName (service : Service σ) (r : Reference) : Naming σ (Option String) := do
  match r.name with
  | some name => return some name
  | none =>
    match (← get).lookup r.cacheKey with
    | some name => return name
    | none =>
      let name ← Naming.ofCall (r.askName service)
      modify ((r.cacheKey, name) :: ·)
      return name

end Reference

end RecordService
