import RecordService.Evaluation
import RecordService.Store

namespace RecordService.Store

/-!
# The service of a store

* `Store.service`: the calls of a store, with their counts and what they note.
-/

/-- Fail by a fault that is no use to try again. -/
def refuse {α : Type} (fault : Fault) : Call Store α :=
  throw (.of (.remoteFault fault false))

/-- The declared entity of a name. -/
def metadata (name : String) : Call Store Entity := do
  match (← Call.state).entity name with
  | .ok e => return e
  | .error fault => refuse fault

/-- One page of the records that a query selects. -/
def query (q : Query) : Call Store QueryResult := do
  Call.change (·.count fun c => { c with queries := c.queries + 1 })
  let e ← metadata q.entity
  let tables := (← Call.state).tables
  Call.notes (q.evaluationJournal tables e)
  return q.evaluate tables e

/-- Some attributes of a record, if it exists. -/
def retrieve (entity : String) (id : Uuid) (columns : ColumnSet) : Call Store (Option Record) := do
  Call.change (·.count fun c => { c with retrievals := c.retrievals + 1 })
  let e ← metadata entity
  return ((← Call.state).tables.find? e.name id).map (·.project (some e) columns)

/-! ### Writing -/

/-- The lines that requests leave: the records as they are after them. -/
def writeJournal (s : Store) : List WriteRequest → List JournalLine
  | [] => []
  | request :: requests =>
    let (result, after) := s.receive request
    let written : Option Record :=
      match result with
      | .ok response => after.tables.find? request.record.entity response.id
      | .error _ => none
    let lines := written.toList.map fun r =>
      ⟨.trace, request.operation.name ++ " " ++ r.toText⟩
    lines ++ writeJournal after requests

/-- Receive requests one after the other. -/
def receiveBatch (requests : List WriteRequest) :
    Call Store (List (Except Fault WriteResponse)) := do
  let s ← Call.state
  let (results, after) := s.receiveAll requests
  Call.change fun _ => after
  Call.notes (s.writeJournal requests)
  return results

/-- Receive a request. -/
def receiveOne (request : WriteRequest) : Call Store (Except Fault WriteResponse) := do
  let s ← Call.state
  let (result, after) := s.receive request
  Call.change fun _ => after
  Call.notes (s.writeJournal [request])
  return result

/-- Take the fault of a call, if one is due. -/
def takeCallFault : Call Store (Option Fault) := do
  match (← Call.state).callFault with
  | some p =>
    Call.change fun s => { s with callFault := p.rest }
    return some p.fault
  | none => return none

/-- Carry out a batch of requests. -/
def executeAll (requests : List WriteRequest) :
    Call Store (List (Except Fault WriteResponse)) := do
  Call.change (·.count fun c =>
    { c with batches := c.batches + 1, requests := c.requests + requests.length })
  match ← takeCallFault with
  | some fault => throw (.of fault.toCause)
  | none => receiveBatch requests

/-- Carry out a single request. -/
def execute (request : WriteRequest) : Call Store WriteResponse := do
  Call.change (·.count fun c => { c with singles := c.singles + 1, requests := c.requests + 1 })
  let result ←
    match ← takeCallFault with
    | some fault => pure (.error fault)
    | none => receiveOne request
  match result with
  | .ok response => return response
  | .error fault => throw (.of fault.toCause)

/-- The service of a store. -/
def service : Service Store where
  metadata := metadata
  query := query
  retrieve := retrieve
  executeAll := executeAll
  execute := execute

end RecordService.Store
