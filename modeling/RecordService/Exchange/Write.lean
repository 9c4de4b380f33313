import RecordService.Exchange.Query
import RecordService.Rehearsal

namespace RecordService.Exchange

/-!
# Exchange of write requests

Options, requests, scripts and outcomes.
-/

/-! ### Options -/

/-- A member that may be missing, read by `f`. -/
def memberOr {α : Type} (j : Json) (name : String) (f : Json → α) (usual : α) : α :=
  match j.member name with
  | .null => usual
  | m => f m

/-- A natural number, zero for anything else. -/
def asNat (j : Json) : Nat :=
  (asNat? j).getD 0

/-- A 32 bit integer, zero for anything else. -/
def asInt32 (j : Json) : Int32 :=
  .ofInt ((asInt? j).getD 0)

/-- Write options. -/
def readOptions (j : Json) : WriteOptions :=
  let usual := WriteOptions.standard
  { batchSize := memberOr j "batch_size" asNat usual.batchSize
    parallelism := memberOr j "parallelism" asNat usual.parallelism
    retries := memberOr j "retries" asNat usual.retries
    initialDelay := memberOr j "delay_ms" asNat usual.initialDelay
    backoff := if textOf j "backoff" == "Exponential" then .exponential else .fixed
    transientCodes :=
      memberOr j "transient_codes" (fun m => m.items.map asInt32) usual.transientCodes
    ignored := textsOf j "ignored"
    createOnlyNames := textsOf j "no_update_columns"
    createOnly := boolOf j "create_only"
    noCreate := boolOf j "no_create"
    noUpdate := boolOf j "no_update"
    updateAllColumns := boolOf j "update_all_columns"
    upsert := boolOf j "upsert"
    matchOn := (itemsOf j "match_on").map asTexts
    allowMultipleMatches := boolOf j "allow_multiple_matches"
    passThrough := boolOf j "pass_thru" }

/-! ### Requests -/

/-- The operation of a name. -/
def operation? (name : String) : Option Operation :=
  [.create, .update, Operation.upsert].find? (·.name == name)

/-- A request. -/
def readRequest (j : Json) : Answer WriteRequest := do
  let operation ← required (operation? (textOf j "operation"))
  return ⟨operation, ← readRecord j⟩

/-- A fault. -/
def readFault (j : Json) : Fault :=
  ⟨int32Of j "code", textOf j "message"⟩

/-- A fault. -/
def fault (f : Fault) : Json :=
  .object [("code", .int f.code.toInt), ("message", .string f.message)]

/-- A response. -/
def response (r : WriteResponse) : Json :=
  .object [("id", .string r.id.toText), ("created", .bool r.created)]

/-- A response or a fault. -/
def result : Except Fault WriteResponse → Json
  | .ok r => response r
  | .error f => fault f

/-- The result of a query. -/
def queryResult (r : QueryResult) : Json :=
  .object
    [("entity", .string r.entity), ("records", texts (r.records.map Record.toText)),
     ("total", optional nat r.total), ("more", .bool r.more),
     ("cookie", optional .string r.cookie)]

/-! ### Scripts -/

/-- The failure of an entry of a script, in its context if it has one. -/
def scriptFailure (j : Json) (e : Failure) : ScriptEntry :=
  .failure (match textOf? j "context" with
    | some context => e.context context
    | none => e)

/-- An entry of a script. -/
def readScriptEntry (j : Json) : Option ScriptEntry :=
  if boolOf j "panic" then some (.failure .breach)
  else if hasMember j "error" then some (scriptFailure j (.saying (textOf j "error")))
  else if hasMember j "fault" then
    let cause := Cause.remoteFault (readFault (j.member "fault")) (boolOf j "retryable")
    some (scriptFailure j (.of cause))
  else
    match textOf j "results" with
    | "short" => some .short
    | "extra" => some .extra
    | "empty" => some .empty
    | _ => none

/-- How a run goes. -/
def readPlan (j : Json) (script : List Json) : Rehearsal.Plan where
  script := script.map readScriptEntry
  sendsBatchesOnly := boolOf j "default_execute"
  cancelOnCall := natOf? j "cancel_on_call"
  cancelOnQuery := natOf? j "cancel_on_query"
  cancelsBefore := boolOf j "cancel_before"

/-! ### Outcomes -/

/-- An item that was not sent yet. -/
def item (i : WriteItem) : Json :=
  .object
    [("token", .string (tokenText i.token)),
     ("operation", .string i.request.operation.name),
     ("request", .string i.request.toText), ("record", record i.request.record)]

/-- How an item ended. -/
def outcome : Outcome → Json
  | .succeeded id created output =>
    .object
      [("id", .string id.toText), ("created", .bool created),
       ("output", optional (fun d => .string (Json.ofDict d).toText) output)]
  | .failed e retryable =>
    .object [("failed", failure e), ("retryable", .bool retryable)]

/-- The text of an outcome, unless it has something that is not shown. -/
def outcomeText (o : ItemOutcome) : Json :=
  if o.outcome.failure?.all isShown then .string o.toText else .null

/-- The outcome of an item. -/
def itemOutcome (o : ItemOutcome) : Json :=
  .object
    [("token", nat o.token), ("input", nat o.index),
     ("operation", optional (fun op => .string op.name) o.operation),
     ("attempts", nat o.attempts), ("success", .bool o.outcome.isSuccess),
     ("outcome", outcome o.outcome), ("text", outcomeText o)]

/-- The sizes of the batches that arrived, sorted if their order is left to chance. -/
def arrivals (o : WriteOptions) (sizes : List Nat) : Json :=
  let sizes := if o.parallelism > 1 then sizes.mergeSort else sizes
  .array (sizes.map nat)

/-- What a run came to. -/
def report (o : WriteOptions) (r : Rehearsal.Report) : Json :=
  .object
    [("outcomes", .array (r.outcomes.map itemOutcome)), ("calls", arrivals o r.arrivals),
     ("elapsed_ms", nat r.elapsed), ("cancelled", .bool r.cancelled)]

end RecordService.Exchange
