import RecordService.Journal
import RecordService.Query
import RecordService.Request

namespace RecordService

/-!
# Services

A service keeps records. It is a record of operations on a state of its own, so that a store in
memory, a store that is watched and a store that fails on purpose are services alike.

* `Call`: an operation of a service. It may fail, it changes the state, and it leaves lines in
  the journal.
* `Service`: the operations.
* `Service.executeAsBatch`: a single request as a batch of one.
-/

/-- What the calls of a service work on. -/
structure World (σ : Type) where
  state : σ
  /-- The lines of the journal, latest first. -/
  journal : List JournalLine

/-- Operations that may fail on a state of type `σ`. A failure keeps the changes made before. -/
abbrev Call (σ : Type) := ExceptT Failure (StateM (World σ))

namespace Call

variable {σ α : Type}

/-- Run a call. -/
def runOn (w : World σ) (c : Call σ α) : Answer α × World σ :=
  c.run w

/-- Leave a line in the journal. -/
def note (line : JournalLine) : Call σ Unit :=
  modify fun w => { w with journal := line :: w.journal }

/-- Leave lines in the journal. -/
def notes (lines : List JournalLine) : Call σ Unit :=
  modify fun w => { w with journal := lines.reverse ++ w.journal }

/-- The state. -/
def state : Call σ σ :=
  return (← get).state

/-- Change the state. -/
def change (f : σ → σ) : Call σ Unit :=
  modify fun w => { w with state := f w.state }

/-- Fail unless there is an answer. -/
def ofAnswer (r : Answer α) : Call σ α :=
  ExceptT.mk (pure r)

/-- A change of the world that does not fail. -/
def ofState (c : StateM (World σ) α) : Call σ α :=
  ExceptT.lift c

/-- The answer of a call, which itself does not fail. -/
def attempt (c : Call σ α) : Call σ (Answer α) :=
  ExceptT.lift c.run

/-- Add a context in words to the failures of a call. -/
def context (text : String) (c : Call σ α) : Call σ α :=
  ExceptT.adapt (Failure.context text) c

/-- A call whose failure is a breach. -/
def orBreach (c : Call σ α) : Call σ α :=
  ExceptT.adapt (fun _ => Failure.breach) c

/-- A call that works on a part of the state. -/
def focus {τ : Type} (part : τ → σ) (put : σ → τ → τ) (c : Call σ α) : Call τ α :=
  ExceptT.mk fun w =>
    let (r, inner) := c.runOn ⟨part w.state, w.journal⟩
    (r, ⟨put inner.state w.state, inner.journal⟩)

/-- A call that leaves nothing in the journal. -/
def silently (c : Call σ α) : Call σ α :=
  ExceptT.mk fun w =>
    let (r, inner) := c.runOn w
    (r, { inner with journal := w.journal })

end Call

/-! ### Services -/

/-- One page of the records that a query selects. -/
structure QueryResult where
  entity : String
  records : List Record
  /-- The number of all records, if the query asked for it. -/
  total : Option Nat
  /-- Whether there are pages to come. -/
  more : Bool
  cookie : Option String
  deriving DecidableEq, Repr

/-- What a service does. -/
structure Service (σ : Type) where
  /-- The description of an entity. -/
  metadata : String → Call σ Entity
  /-- One page of the records that a query selects. -/
  query : Query → Call σ QueryResult
  /-- Some attributes of a record, if it exists. -/
  retrieve : String → Uuid → ColumnSet → Call σ (Option Record)
  /-- Carry out requests, and answer each of them at its place. -/
  executeAll : List WriteRequest → Call σ (List (Except Fault WriteResponse))
  /-- Carry out a single request. -/
  execute : WriteRequest → Call σ WriteResponse

/-- A single request as a batch of one, for services that know batches only. -/
def Service.executeAsBatch {σ : Type}
    (executeAll : List WriteRequest → Call σ (List (Except Fault WriteResponse)))
    (request : WriteRequest) : Call σ WriteResponse := do
  match ← executeAll [request] with
  | [.ok response] => return response
  | [.error fault] => throw (.of fault.toCause)
  | results =>
    throw <| .saying <|
      "Expected exactly one result from the service, received " ++ toString results.length

/-- A catalog with one more entity as the service describes it, unless it is known already. -/
def Catalog.require {σ : Type} (service : Service σ) (catalog : Catalog) (name : String) :
    Call σ Catalog := do
  match catalog.entity? name with
  | some _ => return catalog
  | none => return catalog.insert (← service.metadata name)

/-- A catalog of some entities as the service describes them. -/
def Catalog.load {σ : Type} (service : Service σ) (names : List String) : Call σ Catalog :=
  names.foldlM (Catalog.require service) .empty

end RecordService
