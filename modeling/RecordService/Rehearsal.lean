import RecordService.Store.Service
import RecordService.Write.Schedule

namespace RecordService

/-!
# Rehearsals

A store behind a service that gives records their identities as they arrive, and that behaves
as it is told: it can limit pages, keep totals to itself, fail calls by a script, and ask for a
run to be cancelled.

* `Rehearsal.service`: the service.
* `Rehearsal.write`: a run of the write pipeline.
* `Rehearsal.executePlanned`: a single request.
-/

/-- What a script makes of a call to write. -/
inductive ScriptEntry where
  /-- The call fails before it reaches the store. -/
  | failure (e : Failure)
  /-- The last result is missing. -/
  | short
  /-- There is a result too many. -/
  | extra
  /-- All results are missing. -/
  | empty

/-- A store with what its service is told. -/
structure Rehearsal where
  store : Store
  /-- The number of identities that were given. -/
  issued : Nat
  pageLimit : Option Nat
  hidesTotal : Bool
  /-- One entry for each call to write, none for a call that goes its way. -/
  script : List (Option ScriptEntry)
  /-- Whether single requests are sent as batches of one. -/
  sendsBatchesOnly : Bool
  /-- The sizes of the batches that arrived, zero for a single request, latest first. -/
  arrivals : List Nat
  /-- The number of queries that arrived. -/
  queries : Nat
  /-- The call to write at whose arrival the run is to be cancelled. -/
  cancelOnCall : Option Nat
  /-- The query at whose arrival the run is to be cancelled. -/
  cancelOnQuery : Option Nat
  /-- Whether the run is to be cancelled. -/
  cancelled : Bool

namespace Rehearsal

/-- A rehearsal on some entities. -/
def ofEntities (entities : List Entity) : Rehearsal where
  store := .ofEntities entities
  issued := 0
  pageLimit := none
  hidesTotal := false
  script := []
  sendsBatchesOnly := false
  arrivals := []
  queries := 0
  cancelOnCall := none
  cancelOnQuery := none
  cancelled := false

/-- A call of the store. -/
def onStore {α : Type} (c : Call Store α) : Call Rehearsal α :=
  c.focus (·.store) fun store r => { r with store }

/-! ### Identities -/

/-- Give a record the next identity if it has none. -/
def identify (r : Record) : Call Rehearsal Record := do
  match r.id with
  | some _ => return r
  | none =>
    let n := (← Call.state).issued + 1
    Call.change fun s => { s with issued := n }
    return r.withId (.numbered n)

/-- Give the record of a request an identity, unless it is to be updated. -/
def identifyRequest (request : WriteRequest) : Call Rehearsal WriteRequest := do
  match request.operation with
  | .update => return request
  | _ => return { request with record := ← identify request.record }

/-- Keep a record without checks. -/
def insert (r : Record) : Call Rehearsal Uuid := do
  let r ← identify r
  let (id, store) := (← Call.state).store.insert r
  Call.change fun s => { s with store }
  return id

/-! ### Cancelling -/

/-- Ask for the run to be cancelled. -/
def cancel : Call Rehearsal Unit := do
  Call.change fun s => { s with cancelled := true }
  Call.note Pipeline.cancelLine

/-! ### Queries -/

/-- A query with its pages limited. -/
def limitPages (limit : Option Nat) (q : Query) : Query :=
  match limit with
  | none => q
  | some limit =>
    match q.page with
    | none => { q with page := some (.first limit) }
    | some p => { q with page := some { p with count := min p.count limit } }

/-- One page of the records that a query selects. -/
def query (q : Query) : Call Rehearsal QueryResult := do
  Call.change fun s => { s with queries := s.queries + 1 }
  let s ← Call.state
  if s.cancelOnQuery = some s.queries then cancel
  let result ← onStore (Store.query (limitPages s.pageLimit q))
  return if s.hidesTotal then { result with total := none } else result

/-! ### Writing -/

/-- Take note of a call to write. -/
def arrive (size : Nat) : Call Rehearsal Unit := do
  Call.change fun s => { s with arrivals := size :: s.arrivals }
  let s ← Call.state
  if s.cancelOnCall = some s.arrivals.length then cancel

/-- The entry of the script for a call. -/
def nextEntry : Call Rehearsal (Option ScriptEntry) := do
  match (← Call.state).script with
  | [] => return none
  | entry :: script =>
    Call.change fun s => { s with script }
    return entry

/-- The results as the script wants them. -/
def distort (entry : Option ScriptEntry) (results : List (Except Fault WriteResponse)) :
    List (Except Fault WriteResponse) :=
  match entry with
  | some .short => results.dropLast
  | some .extra => results ++ [.error ⟨-1, "extra"⟩]
  | some .empty => []
  | _ => results

/-- Carry out a batch of requests. -/
def executeAll (requests : List WriteRequest) :
    Call Rehearsal (List (Except Fault WriteResponse)) := do
  arrive requests.length
  match ← nextEntry with
  | some (.failure e) => throw e
  | entry =>
    let requests ← requests.mapM identifyRequest
    return distort entry (← onStore (Store.executeAll requests))

/-- Carry out a single request. -/
def execute (request : WriteRequest) : Call Rehearsal WriteResponse := do
  if (← Call.state).sendsBatchesOnly then Service.executeAsBatch executeAll request
  else
    arrive 0
    match ← nextEntry with
    | some (.failure e) => throw e
    | _ =>
      let request ← identifyRequest request
      onStore (Store.execute request)

/-- The service. -/
def service : Service Rehearsal where
  metadata := fun name => onStore (Store.metadata name)
  query := query
  retrieve := fun entity id columns => onStore (Store.retrieve entity id columns)
  executeAll := executeAll
  execute := execute

/-! ### Runs of the pipeline -/

/-- How a run goes. -/
structure Plan where
  script : List (Option ScriptEntry)
  sendsBatchesOnly : Bool
  cancelOnCall : Option Nat
  cancelOnQuery : Option Nat
  cancelsBefore : Bool

/-- Get ready for a run. -/
def prepare (plan : Plan) : Call Rehearsal Unit := do
  Call.change fun s =>
    { s with
      script := plan.script
      sendsBatchesOnly := plan.sendsBatchesOnly
      cancelOnCall := plan.cancelOnCall
      cancelOnQuery := plan.cancelOnQuery
      arrivals := []
      queries := 0
      cancelled := false }
  if plan.cancelsBefore then cancel

/-- Go back to the ways of a service without a script. -/
def relax (s : Rehearsal) : Rehearsal :=
  { s with script := [], sendsBatchesOnly := false, cancelOnCall := none, cancelOnQuery := none }

/-- What a run came to. -/
structure Report where
  outcomes : List ItemOutcome
  /-- The sizes of the batches that arrived, in order, zero for a single request. -/
  arrivals : List Nat
  /-- How long the run took, in milliseconds. -/
  elapsed : Nat
  cancelled : Bool

/-- Write inputs to an entity. -/
def write (plan : Plan) (entity : String) (options : WriteOptions) (gap : Nat)
    (inputs : List Input) : Call Rehearsal Report := do
  prepare plan
  let ended ← Call.attempt do
    (← Pipeline.prepare service entity options gap (·.cancelled)).write none inputs
  let arrivals := (← Call.state).arrivals.reverse
  Call.change relax
  let ended ← Call.ofAnswer ended
  return ⟨ended.sortedOutcomes, arrivals, ended.time, ended.cancelled⟩

/-- Carry out a single request, by the ways of a plan. -/
def executePlanned (plan : Plan) (request : WriteRequest) : Call Rehearsal WriteResponse := do
  prepare plan
  let response ← (execute request).attempt
  Call.change relax
  Call.ofAnswer response

end Rehearsal

end RecordService
