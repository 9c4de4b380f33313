import RecordService.Conformance.Fixtures

namespace RecordService.Conformance

/-!
# Services under test

A scenario drives a service whose data can be wiped, which can be told to refuse what comes, and
which counts the calls to write.

* `Subject`: such a service.
* `kindOf`: the cause of a call that has to fail.
-/

/-- A service that scenarios can drive. -/
structure Subject (σ : Type) where
  service : Service σ
  /-- Drop all records, pending faults and counts. -/
  reset : Call σ Unit
  /-- Refuse the next requests. -/
  refuseRequests : Fault → Nat → Call σ Unit
  /-- Refuse the next calls to write as a whole. -/
  refuseCalls : Fault → Nat → Call σ Unit
  /-- The calls with a single request and with a batch since the last reset. -/
  writeCalls : Call σ (Nat × Nat)

/-- What a scenario does with a service. It ends early if the service does not stand up to it. -/
abbrev Scenario (σ : Type) := Subject σ → Call σ Unit

variable {σ α : Type}

/-! ### Failures -/

/-- The cause of a call, which has to fail. -/
def kindOf (c : Call σ α) : Call σ (Option Cause) := do
  match ← c.attempt with
  | .ok _ => throw .breach
  | .error e => return e.kind?

/-- Go on only if a call fails by a cause of some kind. -/
def expectFailure (p : Cause → Bool) (c : Call σ α) : Call σ Unit := do
  expect ((← kindOf c).any p)

/-- Whether a cause is a fault of the service, and no use to try again. -/
def isFinalFault : Cause → Bool
  | .remoteFault _ retryable => !retryable
  | _ => false

/-! ### Outcomes -/

/-- The cause of a failed outcome. -/
def causeOf (o : ItemOutcome) : Option Cause :=
  o.outcome.failure?.bind Failure.kind?

/-- The code of the fault of a failed outcome. -/
def faultCode? (o : ItemOutcome) : Option Int32 :=
  match causeOf o with
  | some (.remoteFault fault _) => some fault.code
  | _ => none

/-- Whether an outcome is a success. -/
def succeeded (o : ItemOutcome) : Bool :=
  o.outcome.isSuccess

/-- Whether a record was created. -/
def created (o : ItemOutcome) : Bool :=
  match o.outcome with
  | .succeeded _ created _ => created
  | .failed .. => false

/-- The identity of the record that was written. -/
def writtenId? (o : ItemOutcome) : Option Uuid :=
  match o.outcome with
  | .succeeded id _ _ => some id
  | .failed .. => none

/-- The outcome at a place. -/
def outcomeAt (os : List ItemOutcome) (n : Nat) : Call σ ItemOutcome :=
  present os[n]?

/-- Whether characters stand side by side among others. -/
def isInfix (part : List Char) : List Char → Bool
  | [] => part.isEmpty
  | c :: cs => part.isPrefixOf (c :: cs) || isInfix part cs

/-- Whether a text stands in another one. -/
def containsText (whole part : String) : Bool :=
  isInfix part.toList whole.toList

/-! ### Drafts and rows -/

/-- The draft for contacts that meet a filter. -/
def contactsWhere (filter : Json) : QueryDraft :=
  { QueryDraft.ofEntity "contact" with filter := some filter }

/-- A map with a single member. -/
def only (name : String) (j : Json) : Json :=
  .object [(name, j)]

/-- A map of texts. -/
def textMap (members : List (String × String)) : Json :=
  .object (members.map fun (name, s) => (name, .string s))

/-- The map that asks for an attribute to have a text. -/
def has (name s : String) : Json :=
  textMap [(name, s)]

/-- The map of a condition with an operator. -/
def condition (name operator : String) (operand : List (String × Json)) : Json :=
  only name (.object (("operator", .string operator) :: operand))

/-- A list of texts. -/
def textList (ss : List String) : Json :=
  .array (ss.map .string)

/-- The member of a row. -/
def cellOf (row : Dict Json) (name : String) : Call σ Json :=
  present (row.get? name)

/-- Go on only if a member of a row is as wanted. -/
def expectCell (row : Dict Json) (name : String) (j : Json) : Call σ Unit := do
  expect ((← cellOf row name) == j)

/-- Go on only if a draft selects the contacts with some full names. -/
def expectNames (s : Subject σ) (d : QueryDraft) (names : List String) : Call σ Unit := do
  expect ((← fullNames s.service d) == names)

end RecordService.Conformance
