import RecordService.Matching
import RecordService.Write.Item
import RecordService.Write.Options

namespace RecordService

/-!
# Classification of inputs

What is done with an input follows from the options, the identity that it carries and the
records that it matches.

* `Classifier.identity`: the identity that an input carries.
* `Classifier.classify`: the operations that an input leads to.
* `Classifier.record`: the record of a request.
* `Classifier.items`: the items of an input.
-/

/-- What inputs are classified by. -/
structure Classifier where
  entity : Entity
  options : WriteOptions

namespace Classifier

variable {σ : Type}

/-- An operation, with the record it is about if that is known. -/
abbrev Decision := Operation × Option Uuid

/-! ### Identities -/

/-- The key of the identity in inputs and outputs. -/
def idKey : String := "Id"

/-- The key of the entity in inputs and outputs. -/
def entityKey : String := "TableName"

/-- The value that holds the identity of an input. -/
def identityValue? (c : Classifier) (i : Input) : Option InputValue :=
  ((i.get? idKey).filter fun x => !x.isNull) <|> i.get? c.entity.primaryId

/-- The identity that an input carries. -/
def identity (c : Classifier) (i : Input) : Answer (Option Uuid) :=
  match c.identityValue? i with
  | none => .ok none
  | some x =>
    match c.entity.attribute? c.entity.primaryId with
    | none =>
      .error <| .saying <|
        "`" ++ c.entity.name ++ "` does not declare its primary id attribute"
    | some a => do
      match ← a.coerce x with
      | .uuid id => return id
      | .reference r => return r.map (·.id)
      | other => fail (.format ("`" ++ other.toText ++ "` is not an identity"))

/-! ### Operations -/

/-- The identities of the records that an input matches on the first of some sets of attributes
that finds any. -/
def matchIds (c : Classifier) (service : Service σ) (i : Input) :
    List (List String) → Call σ (List Uuid)
  | [] => return []
  | names :: sets => do
    let found ← i.matchesOn service c.entity names c.options.allowMultipleMatches
    let ids := found.filterMap (·.id)
    if ids.isEmpty then matchIds c service i sets
    else
      Call.note <| debugLine <|
        i.toText ++ " matched " ++ toString ids.length ++ " record(s) on [" ++
          ", ".intercalate names ++ "]"
      return ids

/-- The records that an input is about: the one whose identity it carries, or those that it
matches. -/
def targets (c : Classifier) (service : Service σ) (i : Input) (id : Option Uuid) :
    Call σ (List Uuid) :=
  match id with
  | some id => return [id]
  | none => c.matchIds service i c.options.matchOn

/-- The operations for an input that is about some records. -/
def decide (c : Classifier) (targets : List Uuid) : Answer (List Decision) :=
  if targets.isEmpty then
    if c.options.noCreate then
      .error <| .saying <|
        "No existing `" ++ c.entity.name ++ "` record for the input and creation is disabled"
    else .ok [(.create, none)]
  else if c.options.noUpdate then
    .error <| .saying <|
      "The input identifies an existing `" ++ c.entity.name ++
        "` record and updates are disabled"
  else .ok (targets.map fun id => (.update, some id))

/-- The operations that an input leads to. -/
def classify (c : Classifier) (service : Service σ) (i : Input) : Call σ (List Decision) := do
  let id ← Call.ofAnswer (c.identity i)
  if c.options.upsert then return [(.upsert, id)]
  if c.options.createOnly then return [(.create, id)]
  Call.ofAnswer (c.decide (← c.targets service i id))

/-! ### Records -/

/-- Whether a key of an input is no attribute to write. -/
def skips (c : Classifier) (operation : Operation) (name : String) : Bool :=
  Text.eqIgnoreCase name idKey || Text.eqIgnoreCase name entityKey ||
    c.entity.isPrimaryId name || c.options.isIgnored name ||
    (operation != .create && c.options.isCreateOnly name)

/-- Set the attributes of an input. -/
def setValues (c : Classifier) (operation : Operation) :
    List (String × InputValue) → Record → Answer Record
  | [], r => .ok r
  | (name, x) :: rest, r =>
    if c.skips operation name then setValues c operation rest r
    else
      match c.entity.attribute? name with
      | none => fail (.unknownAttribute c.entity.name name)
      | some a => do
        let v ← a.coerce x
        setValues c operation rest (r.set a.name v)

/-- Whether an attribute that an input does not have is cleared. -/
def clears (c : Classifier) (r : Record) (a : Attribute) : Bool :=
  a.validForUpdate && !c.entity.isPrimaryId a.name && !c.options.isIgnored a.name &&
    !c.options.isCreateOnly a.name && (r.get? a.name).isNone

/-- Clear the attributes that a record does not have. -/
def clearMissing (c : Classifier) (r : Record) : Record :=
  c.entity.attributes.foldl
    (fun r a => if c.clears r a then r.set a.name a.type.emptyValue else r) r

/-- The record of a request. -/
def record (c : Classifier) (i : Input) (decision : Decision) : Answer Record := do
  let (operation, id) := decision
  let r ← c.setValues operation i.values.entries { Record.ofEntity c.entity.name with id }
  return if operation != .create && c.options.updateAllColumns then c.clearMissing r else r

/-! ### Items -/

/-- The item of a decision about an input. -/
def item (c : Classifier) (token index : Nat) (i : Input) (decision : Decision) :
    Answer WriteItem := do
  let r ←
    inContext
      (decision.1.name ++ " of `" ++ c.entity.name ++ "` failed for " ++ i.toText)
      (c.record i decision)
  return ⟨token, index, i, ⟨decision.1, r⟩, 0⟩

/-- The items of some decisions about an input, and the last token that was given. Tokens count
on, also for items that are dropped because a later one has no record. -/
def itemsOf (c : Classifier) (index : Nat) (i : Input) :
    List Decision → Nat → Answer (List WriteItem) × Nat
  | [], last => (.ok [], last)
  | decision :: decisions, last =>
    match c.item (last + 1) index i decision with
    | .error e => (.error e, last)
    | .ok item =>
      let (rest, last) := itemsOf c index i decisions (last + 1)
      (rest.map (item :: ·), last)

/-- The items of an input, and the last token that was given. -/
def items (c : Classifier) (service : Service σ) (index : Nat) (i : Input) (last : Nat) :
    Call σ (Answer (List WriteItem) × Nat) := do
  match ← (c.classify service i).attempt with
  | .error e => return (.error e, last)
  | .ok decisions => return c.itemsOf index i decisions last

end Classifier

end RecordService
