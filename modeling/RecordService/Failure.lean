import RecordService.Json.Printer

namespace RecordService

/-!
# Failures

A failure has a cause and the contexts it went through on its way out. Causes of a known kind
may also stand among the contexts, where they explain a failure that had none.

* `Fault`: what the service answers to a request that it refuses.
* `Cause`: the kinds of failure, each with its wording `Cause.message`.
* `Failure.kind?`: the first cause of a known kind, from the outside in.
-/

/-! ### Faults -/

/-- A refusal of the service. -/
structure Fault where
  code : Int32
  message : String
  deriving DecidableEq, Repr, Inhabited

/-- A code as eight hexadecimal digits with capital letters, a negative one in two's
complement. -/
def Fault.codeText (code : Int32) : String :=
  let ds := Nat.toDigits 16 code.toUInt32.toNat
  String.ofList (List.replicate (8 - ds.length) '0' ++ ds.map Char.toUpper)

/-- Message and code. -/
def Fault.toText (f : Fault) : String :=
  f.message ++ " (0x" ++ codeText f.code ++ ")"

/-! ### Causes -/

/-- Why an operation failed. -/
inductive Cause where
  /-- An identity or reference that is not well formed. -/
  | format (message : String)
  /-- A value that an attribute cannot take. -/
  | typeMismatch (name message : String)
  | unknownAttribute (entity name : String)
  /-- A filter map with a group key among other keys. -/
  | ambiguousFilter (message : String)
  /-- A join map with more than one pair of attributes. -/
  | ambiguousJoin (message : String)
  | invalidJoin (message : String)
  | unsupportedFilterShape (message : String)
  /-- A format that the type of an attribute does not have. -/
  | unsupportedFormat (name format : String)
  | multipleMatches (attributes : List String) (count : Nat)
  | remoteFault (fault : Fault) (retryable : Bool)
  | cancelled
  | invalidOptions (message : String)
  deriving DecidableEq, Repr

/-- The wording of a cause. -/
def Cause.message : Cause → String
  | format m => "format error: " ++ m
  | typeMismatch a m => "type mismatch for `" ++ a ++ "`: " ++ m
  | unknownAttribute e a => "attribute `" ++ a ++ "` does not exist on `" ++ e ++ "`"
  | ambiguousFilter m => "ambiguous filter: " ++ m
  | ambiguousJoin m => "ambiguous join: " ++ m
  | invalidJoin m => "invalid join: " ++ m
  | unsupportedFilterShape m => "unsupported filter shape: " ++ m
  | unsupportedFormat a f => "attribute `" ++ a ++ "` has no " ++ f ++ " representation"
  | multipleMatches as n =>
    toString n ++ " records matched on [" ++ ", ".intercalate as ++
      "] but multiple matches are not allowed"
  | remoteFault f retryable =>
    "remote fault" ++ (if retryable then " (retryable)" else "") ++ ": " ++ f.toText
  | cancelled => "the operation was cancelled"
  | invalidOptions m => "invalid options: " ++ m

/-- Whether the operation may succeed when it is tried again. -/
def Cause.isRetryable : Cause → Bool
  | remoteFault _ retryable => retryable
  | _ => false

/-! ### Failures -/

/-- One layer of a failure. -/
inductive Layer where
  | cause (reason : Cause)
  | note (text : String)
  /-- A reason that has no wording here: the fault a reader of dates or identifiers found. -/
  | unworded
  deriving DecidableEq, Repr

/-- The wording of a layer, if it has one. -/
def Layer.text? : Layer → Option String
  | cause c => some c.message
  | note t => some t
  | unworded => none

/-- The cause that a layer is. -/
def Layer.cause? : Layer → Option Cause
  | cause c => some c
  | _ => none

/-- How an operation ended without an answer. -/
inductive Failure where
  /-- A failure with its contexts, outermost first. -/
  | error (contexts : List Layer) (root : Layer)
  /-- A breach of what the operation takes for granted. Nothing is reported but the breach. -/
  | breach
  deriving DecidableEq, Repr

namespace Failure

/-- A failure by a known cause. -/
def of (c : Cause) : Failure :=
  error [] (.cause c)

/-- A failure told in words alone. -/
def saying (text : String) : Failure :=
  error [] (.note text)

/-- Add a layer on the outside. -/
def within (layer : Layer) : Failure → Failure
  | error contexts root => error (layer :: contexts) root
  | breach => breach

/-- Add a context in words. -/
def context (text : String) : Failure → Failure :=
  within (.note text)

/-- The layers, outermost first. -/
def layers : Failure → List Layer
  | error contexts root => contexts ++ [root]
  | breach => []

/-- The first known cause, from the outside in. -/
def kind? (f : Failure) : Option Cause :=
  f.layers.findSome? Layer.cause?

/-- Whether the operation may succeed when it is tried again. -/
def isRetryable (f : Failure) : Bool :=
  f.kind?.any Cause.isRetryable

/-- The layers in words, outermost first, as far as they have any. -/
def message (f : Failure) : String :=
  ": ".intercalate (f.layers.filterMap Layer.text?)

/-- What is told around a failure leaves its kind. -/
theorem kind?_context (text : String) (f : Failure) : (f.context text).kind? = f.kind? := by
  cases f <;> rfl

end Failure

/-- Results of operations that may fail. -/
abbrev Answer := Except Failure

/-- Fail by a known cause. -/
def fail {α : Type} (c : Cause) : Answer α :=
  .error (Failure.of c)

/-- Add a context in words to a failure. -/
def inContext {α : Type} (text : String) (r : Answer α) : Answer α :=
  r.mapError (Failure.context text)

end RecordService
