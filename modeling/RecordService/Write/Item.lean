import RecordService.Input
import RecordService.Request

namespace RecordService

/-!
# Items and outcomes

An input leads to one or more items, each with a request of its own, and every item ends with one
outcome. A token follows an item all the way.

* `WriteItem`: a request on its way.
* `ItemOutcome`: how an item, or an input that led to none, ended.
-/

/-- A request with the input that it comes from. -/
structure WriteItem where
  /-- Tells the item from all others of a run. -/
  token : Nat
  /-- The place of the input, counted from zero. -/
  index : Nat
  input : Input
  request : WriteRequest
  /-- How often the request was sent. -/
  attempts : Nat

/-- The text of a token. -/
def tokenText (token : Nat) : String :=
  "#" ++ toString token

/-- How an item ended. -/
inductive Outcome where
  /-- The record with the given identity was written. -/
  | succeeded (id : Uuid) (created : Bool) (output : Option (Dict Json))
  | failed (failure : Failure) (retryable : Bool)

/-- Whether an outcome is a success. -/
def Outcome.isSuccess : Outcome → Bool
  | succeeded .. => true
  | failed .. => false

/-- The failure of an outcome. -/
def Outcome.failure? : Outcome → Option Failure
  | succeeded .. => none
  | failed e _ => some e

/-- The outcome of an item. -/
structure ItemOutcome where
  token : Nat
  index : Nat
  /-- None if the input failed before its operation was known. -/
  operation : Option Operation
  attempts : Nat
  input : Input
  outcome : Outcome

namespace ItemOutcome

/-- The text of an outcome. -/
def toText (o : ItemOutcome) : String :=
  let operation :=
    match o.operation with
    | some operation => " " ++ operation.name
    | none => ""
  let result :=
    match o.outcome with
    | .succeeded id _ _ => " succeeded: " ++ id.toText
    | .failed e _ => " failed after " ++ toString o.attempts ++ " attempts: " ++ e.message
  tokenText o.token ++ " input " ++ toString o.index ++ operation ++ result

/-- Whether an outcome stands before another one: by input, then by token. -/
def precedes (a b : ItemOutcome) : Bool :=
  a.index < b.index || (a.index == b.index && a.token ≤ b.token)

end ItemOutcome

namespace WriteItem

/-- Send an item once more. -/
def sent (i : WriteItem) : WriteItem :=
  { i with attempts := i.attempts + 1 }

/-- An item with its outcome. -/
def outcome (i : WriteItem) (o : Outcome) : ItemOutcome :=
  ⟨i.token, i.index, some i.request.operation, i.attempts, i.input, o⟩

/-- The failure of an item of an entity, told with its input. -/
def failure (i : WriteItem) (entity : String) (e : Failure) : Failure :=
  e.context <|
    i.request.operation.name ++ " of `" ++ entity ++ "` failed for " ++ i.input.toText

/-- The outcome of an item that fails for good. -/
def failed (i : WriteItem) (entity : String) (e : Failure) (retryable : Bool) : ItemOutcome :=
  i.outcome (.failed (i.failure entity e) retryable)

end WriteItem

end RecordService
