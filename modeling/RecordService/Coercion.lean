import RecordService.Coercion.Rendering
import RecordService.Number.Binary64.Reader
import RecordService.Number.Decimal.Reader
import RecordService.Time.Reader
import RecordService.Value.Typed

namespace RecordService

/-!
# Coercion of loose data

A loose value becomes the value that an attribute declares, or fails with the reason why it
cannot.

* `Attribute.coerce`: a loose or an already typed value for an attribute.
* `InputValue.guess`: the value of loose data of which no attribute is known.
* `Reference.ofJson`: a reference from an identifier or an object.
-/

/-- A value that comes in: loose data, or a value that is typed already. -/
inductive InputValue where
  | loose (json : Json)
  | typed (value : Value)
  deriving Repr

/-- Whether a value that comes in is null. -/
def InputValue.isNull : InputValue → Bool
  | loose j => j.isNull
  | typed v => v.isNull

/-- A value that comes in, as loose data. -/
def InputValue.toJson : InputValue → Json
  | loose j => j
  | typed v => v.toJson

/-! ### References -/

/-- The value of the first member with one of the given names, ignoring ASCII case, unless it
is null. -/
def Json.namedMember? (names : List String) (members : List (String × Json)) : Option Json :=
  ((members.find? fun member => isNameIn names member.1).map Prod.snd).filter (!·.isNull)

/-- Names of the member that holds the identifier of a reference. -/
def Reference.idKeys : List String := ["Id"]

/-- Names of the member that holds the entity of a reference. -/
def Reference.entityKeys : List String := ["TableName", "LogicalName", "EntityName"]

/-- Name of the member that holds the name of the record. -/
def Reference.nameKeys : List String := ["Name"]

/-- The only entity that an attribute may point to. -/
def Attribute.singleTarget? (a : Attribute) : Option String :=
  match a.targets with
  | [target] => some target
  | _ => none

/-- Build a reference from an identifier or from an object with an identifier and an entity.
The entity may be missing when the attribute has a single target. -/
def Reference.ofJson (a? : Option Attribute) (j : Json) : Answer Reference :=
  let target? := a?.bind (·.singleTarget?)
  let name := (a?.map (·.name)).getD "reference"
  let ids := "/".intercalate idKeys
  let tables := "/".intercalate entityKeys
  match j with
  | .string s =>
    match Uuid.ofText? (Text.trim s) with
    | none =>
      fail <| .format <|
        "`" ++ Text.cutLong s ++ "` is not an identifier, cannot build a reference for `" ++
          name ++ "`"
    | some id =>
      match target? with
      | some entity => .ok ⟨entity, id, none⟩
      | none =>
        fail <| .format <|
          "`" ++ name ++ "` can point to several tables, a raw identifier is not enough, " ++
            "pass an object with " ++ ids ++ " and one of " ++ tables
  | .object members =>
    match Json.namedMember? idKeys members with
    | none =>
      fail <| .format <|
        "The value for `" ++ name ++ "` has no " ++ ids ++ " key: `" ++
          Text.cutLong j.toText ++ "`"
    | some idValue =>
      match idValue.text?.bind fun s => Uuid.ofText? (Text.trim s) with
      | none =>
        fail <| .format <|
          "`" ++ idValue.toText ++ "` is not a valid identifier for `" ++ name ++ "`"
      | some id =>
        match (Json.namedMember? entityKeys members).bind Json.text? <|> target? with
        | some entity =>
          .ok ⟨entity, id, (Json.namedMember? nameKeys members).bind Json.text?⟩
        | none =>
          fail <| .format <|
            "The value for `" ++ name ++ "` has none of the keys " ++ tables ++ ": `" ++
              Text.cutLong j.toText ++ "`"
  | j =>
    fail <| .format <|
      "Cannot build a reference for `" ++ name ++ "` from `" ++ Text.cutLong j.toText ++ "`"

namespace Attribute

/-! ### Parts of coercion -/

/-- The failure to make a value of the attribute's type out of something with a given text. -/
def mismatch {α : Type} (a : Attribute) (text : String) : Answer α :=
  fail <| .typeMismatch a.name <|
    "cannot convert `" ++ Text.cutLong text ++ "` to " ++ a.type.name

/-- The answer of an optional result. -/
def orMismatch {α : Type} (a : Attribute) (text : String) : Option α → Answer α
  | some x => .ok x
  | none => a.mismatch text

/-- A reference as a value, if the attribute may point to its entity. -/
def checkTarget (a : Attribute) (r : Reference) : Answer Value :=
  if !a.targets.isEmpty && !isNameIn a.targets r.entity then
    fail <| .typeMismatch a.name <|
      "`" ++ r.entity ++ "` is not one of the targets [" ++ ", ".intercalate a.targets ++ "]"
  else .ok (.reference (some r))

/-- An integer of 64 bits from a number without fraction, from digits, or from a truth value.
Numbers beyond 64 bits are taken as the nearest bound. -/
def readInteger (a : Attribute) : Json → Answer Int64
  | .string s =>
    match Text.readInt64 (Text.trim s) with
    | .ok n => .ok (.ofInt n)
    | .error _ => a.mismatch s
  | .bool b => .ok (if b then 1 else 0)
  | j =>
    let whole? := (j.binary64?.filter (·.isWhole)).map fun x => Int64.ofInt x.toInt64
    a.orMismatch j.toText (j.int64? <|> whole?)

/-- The choice with a given code. It has to be declared if the attribute declares any. -/
def choiceOfCode (a : Attribute) (code : Int64) : Answer Value :=
  match narrow? code with
  | none => a.mismatch (Value.intText code.toInt)
  | some code =>
    if a.options.isEmpty then .ok (.choice (some ⟨code, none⟩))
    else
      match a.optionLabel? code with
      | some label => .ok (.choice (some ⟨code, some label⟩))
      | none =>
        fail <| .typeMismatch a.name <| Value.intText code.toInt ++ " is not a valid option"

/-- Whether a text is an integer of 64 bits. -/
def isInteger (s : String) : Bool :=
  match Text.readInt64 s with
  | .ok _ => true
  | .error _ => false

/-- A choice from its label, its code, or an object with its code. -/
def coerceChoice (a : Attribute) (j : Json) : Answer Value :=
  match j with
  | .string s =>
    if isInteger (Text.trim s) then a.readInteger j >>= a.choiceOfCode
    else
      match a.optionCode? (Text.trim s) with
      | some code => a.choiceOfCode code.toInt64
      | none => a.mismatch s
  | .object members =>
    match Json.namedMember? ["Value", "Code"] members with
    | some code => a.readInteger code >>= a.choiceOfCode
    | none => a.mismatch j.toText
  | j => a.readInteger j >>= a.choiceOfCode

/-- A truth value from itself, from a number, or from one of its words. -/
def coerceBoolean (a : Attribute) (j : Json) : Answer Value :=
  match j with
  | .bool b => .ok (.boolean (some b))
  | .string s =>
    let word := Text.lower (Text.trim s)
    if ["true", "yes", "1"].contains word then .ok (.boolean (some true))
    else if ["false", "no", "0"].contains word then .ok (.boolean (some false))
    else
      match a.optionCode? word with
      | some code => .ok (.boolean (some (code != 0)))
      | none => a.mismatch s
  | .int _ => (a.readInteger j).map fun n => .boolean (some (n != 0))
  | .double _ => (a.readInteger j).map fun n => .boolean (some (n != 0))
  | j => a.mismatch j.toText

/-- The decimal of a number: of an integer its value, of a double its shortest digits. -/
def decimalOfNumber? (j : Json) : Option Decimal :=
  match j.int64? with
  | some n => some (.ofInt64 n)
  | none => Decimal.ofText? j.toText

/-- A decimal with the places of the attribute. -/
def coerceDecimal (a : Attribute) (j : Json) : Answer Decimal :=
  let decimal :=
    match j with
    | .string s => a.orMismatch s (Decimal.ofText? (Text.trim s))
    | .int _ => a.orMismatch j.toText (decimalOfNumber? j)
    | .double _ => a.orMismatch j.toText (decimalOfNumber? j)
    | j => a.mismatch j.toText
  decimal.map fun d =>
    match a.precision with
    | some places => d.roundTo places
    | none => d

/-- A text from a string, a number or a truth value. -/
def coerceText (a : Attribute) : Json → Answer Value
  | .string s => .ok (.text (some s))
  | .int n => .ok (.text (some (Json.int n).toText))
  | .double x => .ok (.text (some (Json.double x).toText))
  | .bool b => .ok (.text (some (Json.bool b).toText))
  | j => a.mismatch j.toText

/-- A double from a number or a text. -/
def coerceDouble (a : Attribute) : Json → Answer Value
  | .string s =>
    (a.orMismatch s (Binary64.ofText? (Text.trim s))).map fun x => .double (some x)
  | j => (a.orMismatch j.toText j.binary64?).map fun x => .double (some x)

/-- A date or a point in time from a text. -/
def coerceDateTime (a : Attribute) : Json → Answer Value
  | .string s =>
    if a.behavior = .dateOnly then
      ((Date.read s).mapError (.within (.cause (.typeMismatch a.name "not a date")))).map
        fun d => .date (some d)
    else
      ((Timestamp.read s).mapError
        (.within (.cause (.typeMismatch a.name "not a date-time")))).map
        fun t => .timestamp (some t)
  | j => a.mismatch j.toText

/-- An identifier from a text. -/
def coerceUuid (a : Attribute) : Json → Answer Value
  | .string s =>
    match Uuid.ofText? (Text.trim s) with
    | some u => .ok (.uuid (some u))
    | none =>
      fail <| .format <|
        "`" ++ Text.cutLong s ++ "` is not a valid identifier for `" ++ a.name ++ "`"
  | j => a.mismatch j.toText

/-! ### Coercion -/

/-- Make a value of the attribute's type out of loose data. -/
def coerceJson (a : Attribute) (j : Json) : Answer Value :=
  match j with
  | .null => .ok a.type.emptyValue
  | .array _ => a.mismatch j.toText
  | j =>
    match a.type with
    | .string => a.coerceText j
    | .memo => a.coerceText j
    | .integer => do
      let n ← a.readInteger j
      a.orMismatch (Value.intText n.toInt) ((narrow? n).map fun m => .int32 (some m))
    | .bigInt => (a.readInteger j).map fun n => .int64 (some n)
    | .double => a.coerceDouble j
    | .decimal => (a.coerceDecimal j).map fun d => .decimal (some d)
    | .money => (a.coerceDecimal j).map fun d => .money (some d)
    | .boolean => a.coerceBoolean j
    | .dateTime => a.coerceDateTime j
    | .picklist => a.coerceChoice j
    | .state => a.coerceChoice j
    | .status => a.coerceChoice j
    | .lookup => Reference.ofJson a j >>= a.checkTarget
    | .customer => Reference.ofJson a j >>= a.checkTarget
    | .owner => Reference.ofJson a j >>= a.checkTarget
    | .uniqueidentifier => a.coerceUuid j

/-- Make a value of the attribute's type out of a value of any type. -/
def coerceValue (a : Attribute) (v : Value) : Answer Value :=
  if v.isNull then .ok a.type.emptyValue
  else if v.kind = a.type.kind then
    match v with
    | .reference (some r) => a.checkTarget r
    | .choice (some c) => a.choiceOfCode c.code.toInt64
    | v => .ok v
  else
    match a.type.kind, v with
    | .reference, .uuid (some id) =>
      Reference.ofJson a (.string id.toText) >>= a.checkTarget
    | .timestamp, .date (some d) =>
      .ok <|
        if a.behavior = .dateOnly then .date (some d)
        else .timestamp (some (.midnight d))
    | _, v => a.coerceJson v.toJson

/-- Make a value of the attribute's type out of a value that comes in. -/
def coerce (a : Attribute) : InputValue → Answer Value
  | .loose j => a.coerceJson j
  | .typed v => a.coerceValue v

end Attribute

/-- The value of a number by its size. -/
def Value.ofNumber (j : Json) : Value :=
  match j.int64? with
  | some n =>
    match narrow? n with
    | some m => .int32 (some m)
    | none => .int64 (some n)
  | none => .double j.binary64?

/-- The value of loose data when no attribute is known. -/
def Json.guess (j : Json) : Answer Value :=
  match j with
  | null => .ok .null
  | bool b => .ok (.boolean (some b))
  | string s => .ok (.text (some s))
  | int _ => .ok (.ofNumber j)
  | double _ => .ok (.ofNumber j)
  | object _ => (Reference.ofJson none j).map fun r => .reference (some r)
  | array _ =>
    fail <| .typeMismatch "value" <|
      "cannot use the list `" ++ Text.cutLong j.toText ++ "` as a single value"

/-- The value of data that come in when no attribute is known. -/
def InputValue.guess : InputValue → Answer Value
  | loose j => j.guess
  | typed v => .ok v

end RecordService
