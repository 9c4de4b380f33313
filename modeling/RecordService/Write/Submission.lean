import RecordService.Service
import RecordService.Write.Classification

namespace RecordService

/-!
# Submission of batches

A batch is sent in one call, a batch of one as a single request. Each of its items gets the
answer at its own place; after a transient fault it is to be sent again as long as there are
attempts left.

* `Submission.submit`: sends requests, and tells how each of them fared.
* `Submission.settle`: what becomes of the items.
-/

/-- How a request fared. -/
inductive SubmitResult where
  | done (response : WriteResponse)
  | failed (failure : Failure) (retryable : Bool)

namespace Submission

variable {σ : Type}

/-! ### Failures of calls -/

/-- The failure of a call as it is told of each request: the known cause with the outermost
context, or else the whole in words. -/
def shared (e : Failure) : Failure :=
  match e.kind?, e.layers with
  | some cause, [_] => .of cause
  | some cause, outermost :: _ => (Failure.of cause).context (outermost.text?.getD "")
  | _, _ => .saying e.message

/-- Whether a failure of a call may go away by itself. -/
def isTransient (o : WriteOptions) (e : Failure) : Bool :=
  match e.kind? with
  | some (.remoteFault fault _) => o.isTransient fault.code
  | _ => false

/-- The result of a request that is refused. -/
def refused (o : WriteOptions) (fault : Fault) : SubmitResult :=
  let retryable := o.isTransient fault.code
  .failed (.of (.remoteFault fault retryable)) retryable

/-! ### Sending -/

/-- Fail if a call was a breach, which is not for the items to tell. -/
def unlessBreach (r : Answer α) : Call σ (Answer α) :=
  match r with
  | .error .breach => throw .breach
  | r => return r

/-- Send a single request. -/
def submitOne (service : Service σ) (o : WriteOptions) (request : WriteRequest) :
    Call σ (List SubmitResult) := do
  match ← unlessBreach (← (service.execute request).attempt) with
  | .ok response => return [.done response]
  | .error e => return [.failed e (isTransient o e)]

/-- Send requests together. -/
def submitAll (service : Service σ) (o : WriteOptions) (requests : List WriteRequest) :
    Call σ (List SubmitResult) := do
  match ← unlessBreach (← (service.executeAll requests).attempt) with
  | .error e => return requests.map fun _ => .failed (shared e) (isTransient o e)
  | .ok results =>
    if results.length = requests.length then
      return results.map fun
        | .ok response => .done response
        | .error fault => refused o fault
    else
      let e := Failure.saying <|
        "The service returned " ++ toString results.length ++ " results for " ++
          toString requests.length ++ " requests"
      return requests.map fun _ => .failed e false

/-- Send requests, and tell how each of them fared. -/
def submit (service : Service σ) (o : WriteOptions) :
    List WriteRequest → Call σ (List SubmitResult)
  | [request] => submitOne service o request
  | requests => submitAll service o requests

/-! ### Settling -/

/-- The input with the identity and the entity of the record that was written. -/
def written (entity : String) (i : WriteItem) (id : Uuid) : Dict Json :=
  ((i.input.values.map InputValue.toJson).insert Classifier.idKey (.string id.toText)).insert
    Classifier.entityKey (.string entity)

/-- The outcome of an item that was carried out. -/
def succeeded (entity : String) (o : WriteOptions) (i : WriteItem) (r : WriteResponse) :
    ItemOutcome :=
  i.outcome <| .succeeded r.id r.created <|
    if o.passThrough then some (written entity i r.id) else none

/-- What becomes of the items of a batch. -/
structure Settlement where
  outcomes : List ItemOutcome
  /-- The items to send again, in order. -/
  retry : List WriteItem
  journal : List JournalLine

/-- The line of an item that failed for good. -/
def failureLine (entity : String) (i : WriteItem) (e : Failure) : JournalLine :=
  warnLine <|
    tokenText i.token ++ " " ++ i.request.operation.name ++ " of `" ++ entity ++
      "` failed after " ++ toString i.attempts ++ " attempt(s): " ++
      (i.failure entity e).message

/-- The line of an item that is to be sent again. -/
def retryLine (o : WriteOptions) (i : WriteItem) (e : Failure) : JournalLine :=
  warnLine <|
    tokenText i.token ++ " attempt " ++ toString i.attempts ++ " of " ++
      toString (o.retries + 1) ++ " failed, retrying: " ++ e.message

/-- Whether an item is to be sent again after a failure. -/
def retries (o : WriteOptions) (i : WriteItem) (retryable : Bool) : Bool :=
  retryable && i.attempts ≤ o.retries

/-- What becomes of an item. -/
def settleOne (entity : String) (o : WriteOptions) (i : WriteItem) : SubmitResult → Settlement
  | .done response => ⟨[succeeded entity o i response], [], []⟩
  | .failed e retryable =>
    if retries o i retryable then ⟨[], [i], [retryLine o i e]⟩
    else ⟨[i.failed entity e retryable], [], [failureLine entity i e]⟩

/-- Two settlements one after the other. -/
def Settlement.append (a b : Settlement) : Settlement :=
  ⟨a.outcomes ++ b.outcomes, a.retry ++ b.retry, a.journal ++ b.journal⟩

/-- What becomes of the items of a batch, each by the result at its place. -/
def settle (entity : String) (o : WriteOptions) :
    List WriteItem → List SubmitResult → Settlement
  | i :: items, r :: results =>
    (settleOne entity o i r).append (settle entity o items results)
  | _, _ => ⟨[], [], []⟩

end Submission

end RecordService
