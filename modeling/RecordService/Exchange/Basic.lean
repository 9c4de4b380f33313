import RecordService.Failure

namespace RecordService.Exchange

/-!
# Exchange of data

The JSON forms in which typed data are handed over. This module has the members of objects and
the form of failures.
-/

/-! ### Members -/

/-- The text of a member, empty when it has none. -/
def textOf (j : Json) (name : String) : String :=
  ((j.member name).text?).getD ""

/-- The text of a member, if it has one. -/
def textOf? (j : Json) (name : String) : Option String :=
  (j.member name).text?

/-- A truth value. -/
def asBool : Json → Bool
  | .bool b => b
  | _ => false

/-- A truth value of a member, false when it has none. -/
def boolOf (j : Json) (name : String) : Bool :=
  asBool (j.member name)

/-- An integer. -/
def asInt? : Json → Option Int
  | .int n => some n
  | _ => none

/-- A natural number. -/
def asNat? : Json → Option Nat
  | .int (.ofNat n) => some n
  | _ => none

/-- The natural number of a member, if it has one. -/
def natOf? (j : Json) (name : String) : Option Nat :=
  asNat? (j.member name)

/-- The 32 bit integer of a member. -/
def int32Of (j : Json) (name : String) : Int32 :=
  .ofInt ((asInt? (j.member name)).getD 0)

/-- The items of a member that is a list. -/
def itemsOf (j : Json) (name : String) : List Json :=
  (j.member name).items

/-- The texts of a list. -/
def asTexts (j : Json) : List String :=
  j.items.filterMap Json.text?

/-- The texts of a member that is a list. -/
def textsOf (j : Json) (name : String) : List String :=
  asTexts (j.member name)

/-- Whether an object has a member. -/
def hasMember (j : Json) (name : String) : Bool :=
  match j with
  | .object members => members.any (·.1 == name)
  | _ => false

/-! ### Results -/

/-- Something that may be missing. -/
def optional {α : Type} (f : α → Json) : Option α → Json
  | some a => f a
  | none => .null

/-- A list of texts. -/
def texts (ss : List String) : Json :=
  .array (ss.map .string)

/-- The name of a kind of failure. -/
def kindName : Cause → String
  | .format .. => "Format"
  | .typeMismatch .. => "TypeMismatch"
  | .unknownAttribute .. => "UnknownAttribute"
  | .ambiguousFilter .. => "AmbiguousFilter"
  | .ambiguousJoin .. => "AmbiguousJoin"
  | .invalidJoin .. => "InvalidJoin"
  | .unsupportedFilterShape .. => "UnsupportedFilterShape"
  | .unsupportedFormat .. => "UnsupportedFormat"
  | .multipleMatches .. => "MultipleMatches"
  | .remoteFault .. => "RemoteFault"
  | .cancelled => "Cancelled"
  | .invalidOptions .. => "InvalidOptions"

/-- The words of a layer that is shown. Layers that tell of single values as they are kept
inside are not shown. -/
def shownText? (layer : Layer) : Option String :=
  layer.text?.filter fun t => !"Cannot convert ".isPrefixOf t

/-- The words of the layers up to the first that is not shown. -/
def shownMessage (f : Failure) : String :=
  ": ".intercalate ((f.layers.map shownText?).takeWhile Option.isSome).reduceOption

/-- Whether all layers are shown. -/
def isShown (f : Failure) : Bool :=
  f.layers.all fun layer => (shownText? layer).isSome

/-- A failure. -/
def failure (f : Failure) : Json :=
  match f with
  | .breach => .object [("error", .string "panic")]
  | f =>
    .object
      [("error", .string ((f.kind?.map kindName).getD "Error")),
       ("message", .string (shownMessage f))]

/-- A result or a failure in its place. -/
def answer (r : Answer Json) : Json :=
  match r with
  | .ok j => j
  | .error f => failure f

end RecordService.Exchange
