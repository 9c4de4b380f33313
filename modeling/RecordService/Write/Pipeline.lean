import RecordService.Write.Submission

namespace RecordService

/-!
# The write pipeline

A producer classifies the inputs one after the other and puts their items into batches. Batches
wait in a queue of limited length until a worker takes them. A worker sends a batch, and when the
service has answered it sends those items again that may still succeed, after a wait. Once the run
is cancelled no input is read and nothing is sent that waited.

A run is a state on which actors act: the producer, the workers, and whoever cancels. Calls of
the service take no time.

* `Pipeline.Run`: the state of a run.
* `Pipeline.due?`: when an actor can act.
* `Pipeline.act`: what an actor does.
-/

/-- What to write, and where. -/
structure Pipeline (σ : Type) where
  service : Service σ
  entity : Entity
  options : WriteOptions
  /-- How long the source of the inputs takes for each of them, in milliseconds. -/
  gap : Nat
  /-- Whether the state of the service asks for the run to be cancelled. -/
  cancels : σ → Bool

namespace Pipeline

variable {σ : Type}

/-! ### Runs -/

/-- What the producer is about to do. -/
inductive Producer where
  /-- Ask for an input. -/
  | reading
  /-- Classify the input that comes at a time. -/
  | awaiting (due : Nat)
  /-- Put the items of an input into the open batch. -/
  | filling (items : List WriteItem)
  /-- Put a full batch into the queue, then go on with the items. -/
  | sending (batch items : List WriteItem)
  /-- Put the last batch into the queue. -/
  | closing (batch : List WriteItem)
  | finished

/-- What a worker is about to do. -/
inductive Worker where
  /-- Take a batch from the queue. -/
  | idle
  /-- Settle items that are with the service, when it answers. -/
  | calling (items : List WriteItem)
  /-- Send items again at a time. -/
  | waiting (due : Nat) (items : List WriteItem)
  | gone

/-- Who acts in a run. -/
inductive Actor where
  | producer
  | worker (id : Nat)
  /-- Whoever cancels the run. -/
  | canceller
  deriving DecidableEq, Repr

/-- The state of a run. -/
structure Run (σ : Type) where
  world : World σ
  /-- The time since the start, in milliseconds. -/
  time : Nat
  cancelled : Bool
  /-- When the run will be cancelled. -/
  cancelAt : Option Nat
  /-- The inputs that were not read yet. -/
  inputs : List Input
  /-- The number of inputs that were read. -/
  read : Nat
  /-- The last token that was given. -/
  lastToken : Nat
  producer : Producer
  /-- The open batch. -/
  batch : List WriteItem
  queue : List (List WriteItem)
  workers : List Worker
  /-- The outcomes, latest first. -/
  outcomes : List ItemOutcome

/-- The text of the line about a cancelled run. -/
def cancelLine : JournalLine :=
  debugLine "Write pipeline cancellation requested"

namespace Run

/-- Leave a line in the journal. -/
def note (s : Run σ) (line : JournalLine) : Run σ :=
  { s with world := { s.world with journal := line :: s.world.journal } }

/-- Leave lines in the journal. -/
def notes (s : Run σ) (lines : List JournalLine) : Run σ :=
  { s with world := { s.world with journal := lines.reverse ++ s.world.journal } }

/-- Put out outcomes. -/
def emit (s : Run σ) (outcomes : List ItemOutcome) : Run σ :=
  { s with outcomes := outcomes.reverse ++ s.outcomes }

/-- Put items out as failed. -/
def failItems (s : Run σ) (entity : String) (items : List WriteItem) (e : Failure) : Run σ :=
  s.emit (items.map fun i => i.failed entity e false)

/-- Change what a worker does. -/
def setWorker (s : Run σ) (id : Nat) (w : Worker) : Run σ :=
  { s with workers := s.workers.set id w }

/-- Change what the producer does. -/
def setProducer (s : Run σ) (producer : Producer) : Run σ :=
  { s with producer }

/-- Whether a worker is there to take batches. -/
def hasWorkers (s : Run σ) : Bool :=
  s.workers.any fun
    | .gone => false
    | _ => true

/-- Whether the producer has read and passed on all it will. -/
def isClosed (s : Run σ) : Bool :=
  match s.producer with
  | .finished => true
  | _ => false

/-- Whether all is done. -/
def isOver (s : Run σ) : Bool :=
  s.isClosed && !s.hasWorkers

/-- Cancel the run. -/
def cancel (s : Run σ) : Run σ :=
  { s with cancelled := true, cancelAt := none }.note cancelLine

end Run

/-- A run at its start. -/
def start (p : Pipeline σ) (w : World σ) (inputs : List Input) : Run σ where
  world := w
  time := 0
  cancelled := p.cancels w.state
  cancelAt := none
  inputs := inputs
  read := 0
  lastToken := 0
  producer := .reading
  batch := []
  queue := []
  workers := List.replicate p.options.parallelism .idle
  outcomes := []

/-- Make a call in a run. The service may ask for the run to be cancelled. -/
def call {α : Type} (p : Pipeline σ) (s : Run σ) (c : Call σ α) : Answer α × Run σ :=
  let (result, w) := c.runOn s.world
  (result, { s with world := w, cancelled := s.cancelled || p.cancels w.state })

/-! ### When actors can act -/

/-- The time at which a wait ends, which a cancelled run ends at once. -/
def wakeTime (s : Run σ) (due : Nat) : Nat :=
  if s.cancelled then s.time else max s.time due

/-- Whether a batch can leave the producer: into the queue, or away if no worker is left. -/
def canSend (p : Pipeline σ) (s : Run σ) : Bool :=
  s.queue.length < p.options.parallelism || !s.hasWorkers

/-- When the producer can act. -/
def producerDue? (p : Pipeline σ) (s : Run σ) : Option Nat :=
  match s.producer with
  | .reading => some s.time
  | .awaiting due => some (wakeTime s due)
  | .filling _ => some s.time
  | .sending _ _ => if p.canSend s then some s.time else none
  | .closing _ => if p.canSend s then some s.time else none
  | .finished => none

/-- When a worker can act. -/
def workerDue? (s : Run σ) : Worker → Option Nat
  | .idle => if s.queue.isEmpty && !s.isClosed then none else some s.time
  | .calling _ => some s.time
  | .waiting due _ => some (wakeTime s due)
  | .gone => none

/-- When an actor can act, if it can. -/
def due? (p : Pipeline σ) (s : Run σ) : Actor → Option Nat
  | .producer => p.producerDue? s
  | .worker id => s.workers[id]?.bind (workerDue? s)
  | .canceller => if s.isOver then none else s.cancelAt

/-! ### The producer -/

/-- The failure of batches that no worker takes. -/
def unsent : Failure :=
  .saying "The workers stopped before the batch was sent"

/-- Let a batch leave the producer. -/
def sendBatch (p : Pipeline σ) (s : Run σ) (batch : List WriteItem) : Run σ :=
  if s.hasWorkers then { s with queue := s.queue ++ [batch] }
  else s.failItems p.entity.name batch unsent

/-- End the producer. -/
def finish (p : Pipeline σ) (s : Run σ) : Run σ :=
  { s with producer := .finished, batch := [] }.note <| debugLine <|
    "Read " ++ toString s.read ++ " input record(s) for `" ++ p.entity.name ++ "`"

/-- Read no more: the open batch goes into the queue, or fails if the run is cancelled. -/
def leave (p : Pipeline σ) (s : Run σ) : Run σ :=
  if s.batch.isEmpty then p.finish s
  else if s.cancelled then p.finish (s.failItems p.entity.name s.batch (.of .cancelled))
  else { s with producer := .closing s.batch, batch := [] }

/-- The outcome of an input that could not be classified. -/
def inputFailed (p : Pipeline σ) (index token : Nat) (i : Input) (e : Failure) : ItemOutcome :=
  let e := e.context <|
    "Could not write `" ++ p.entity.name ++ "` for input " ++ toString index ++ ": " ++ i.toText
  ⟨token, index, none, 0, i, .failed e false⟩

/-- Put out an input as failed. -/
def emitInputFailed (p : Pipeline σ) (s : Run σ) (i : Input) (e : Failure) : Run σ :=
  let o := p.inputFailed s.read (s.lastToken + 1) i e
  let s := { s with lastToken := s.lastToken + 1, read := s.read + 1, producer := .reading }
  (s.notes (o.outcome.failure?.toList.map fun e => warnLine e.message)).emit [o]

/-- The line of an actor that stopped by a breach. -/
def breachLine : JournalLine :=
  ⟨.error, "Write pipeline task failed"⟩

/-- Stop the producer by a breach. What it has read and not passed on is lost. -/
def breakProducer (s : Run σ) : Run σ :=
  { s with producer := .finished, batch := [] }.note breachLine

/-- Go on with what the classification of an input came to, and the last token that it gave. -/
def classified (p : Pipeline σ) (s : Run σ) (i : Input) :
    Answer (Answer (List WriteItem) × Nat) → Run σ
  | .error _ => breakProducer s
  | .ok (.error .breach, _) => breakProducer s
  | .ok (.error e, last) => p.emitInputFailed { s with lastToken := last } i e
  | .ok (.ok items, last) =>
    { s with lastToken := last, read := s.read + 1, producer := .filling items }

/-- What inputs are classified by. -/
def classifier (p : Pipeline σ) : Classifier :=
  ⟨p.entity, p.options⟩

/-- Classify the next input. -/
def takeInput (p : Pipeline σ) (s : Run σ) (i : Input) (rest : List Input) : Run σ :=
  let (r, s) :=
    p.call { s with inputs := rest } (p.classifier.items p.service s.read i s.lastToken)
  p.classified s i r

/-- Put an item into the open batch. -/
def fill (p : Pipeline σ) (s : Run σ) (i : WriteItem) (rest : List WriteItem) : Run σ :=
  let batch := s.batch ++ [i]
  if p.options.batchSize ≤ batch.length then
    { s with batch := [], producer := .sending batch rest }
  else { s with batch, producer := .filling rest }

/-- What the producer does. -/
def produce (p : Pipeline σ) (s : Run σ) : Run σ :=
  match s.producer with
  | .reading =>
    match s.inputs with
    | [] => p.leave s
    | i :: rest =>
      if s.cancelled then p.leave s
      else if p.gap = 0 then p.takeInput s i rest
      else s.setProducer (.awaiting (s.time + p.gap))
  | .awaiting _ =>
    match s.inputs with
    | [] => p.leave s
    | i :: rest => if s.cancelled then p.leave s else p.takeInput s i rest
  | .filling [] => s.setProducer .reading
  | .filling (i :: rest) => p.fill s i rest
  | .sending batch rest => (p.sendBatch s batch).setProducer (.filling rest)
  | .closing batch => p.finish (p.sendBatch s batch)
  | .finished => s

/-! ### Workers -/

/-- Go on with what became of items: those that ended are put out, the others wait to be sent
again. -/
def settled (p : Pipeline σ) (s : Run σ) (id : Nat) (r : Submission.Settlement) : Run σ :=
  let s := (s.emit r.outcomes).notes r.journal
  match r.retry with
  | [] => s.setWorker id .idle
  | i :: _ => s.setWorker id (.waiting (s.time + p.options.retryDelay i.attempts) r.retry)

/-- Go on with what the submission of items came to. A breach ends the worker, and its items are
lost. -/
def submitted (p : Pipeline σ) (s : Run σ) (id : Nat) (items : List WriteItem) :
    Answer (List SubmitResult) → Run σ
  | .error _ => (s.setWorker id .gone).note breachLine
  | .ok results => p.settled s id (Submission.settle p.entity.name p.options items results)

/-- Send items. They are with the service until it answers. -/
def send (s : Run σ) (id : Nat) (items : List WriteItem) : Run σ :=
  s.setWorker id (.calling (items.map WriteItem.sent))

/-- Go on with items as the service answers. -/
def answer (p : Pipeline σ) (s : Run σ) (id : Nat) (items : List WriteItem) : Run σ :=
  let (r, s) := p.call s (Submission.submit p.service p.options (items.map (·.request)))
  p.submitted s id items r

/-- Give up items that waited. -/
def abandon (p : Pipeline σ) (s : Run σ) (id : Nat) (items : List WriteItem) : Run σ :=
  let lines := items.map fun i => Submission.failureLine p.entity.name i (.of .cancelled)
  ((s.failItems p.entity.name items (.of .cancelled)).notes lines).setWorker id .idle

/-- The line of a worker that takes a batch. -/
def receiveLine (p : Pipeline σ) (id : Nat) (batch : List WriteItem) : JournalLine :=
  debugLine <|
    "Worker " ++ toString id ++ " received a batch of " ++ toString batch.length ++ " " ++
      p.entity.name ++ " item(s)"

/-- Take a batch from the queue, or go if there will be none. -/
def receive (p : Pipeline σ) (s : Run σ) (id : Nat) : Run σ :=
  match s.queue with
  | [] => (s.setWorker id .gone).note (debugLine ("Worker " ++ toString id ++ " done"))
  | batch :: queue =>
    let s := { s with queue }
    if s.cancelled then s.failItems p.entity.name batch (.of .cancelled)
    else send (s.note (p.receiveLine id batch)) id batch

/-- What a worker does. -/
def work (p : Pipeline σ) (s : Run σ) (id : Nat) : Run σ :=
  match s.workers[id]? with
  | some .idle => p.receive s id
  | some (.calling items) => p.answer s id items
  | some (.waiting _ items) => if s.cancelled then p.abandon s id items else send s id items
  | _ => s

/-! ### Steps -/

/-- What an actor does. -/
def act (p : Pipeline σ) (s : Run σ) : Actor → Run σ
  | .producer => p.produce s
  | .worker id => p.work s id
  | .canceller => s.cancel

end Pipeline

end RecordService
