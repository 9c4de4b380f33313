import RecordService.Proofs.Pipeline.Interleaving
import RecordService.Proofs.Pipeline.Items
import Mathlib.Algebra.Order.Group.Multiset
import Mathlib.Tactic.Abel

namespace RecordService

/-!
# The tickets of a run

Every item that comes out of the classification is in exactly one place until it has its outcome:
with the producer, in the open batch, in a queued batch, or with a worker. What identifies it on
the way is its ticket.

* `Ticket`: the token, the place and the input of an item, which its outcome has to carry.
* `Pipeline.Run.tickets`: the tickets of all items on their way and of all outcomes.
* `Pipeline.tickets_passing`, `tickets_receive`, `tickets_answered`, `tickets_wake`: what the
  actors do leaves the tickets as they are.
* `Pipeline.tickets_classified`: an input that is read brings its tickets in.
-/

/-! ### Tickets -/

/-- What an outcome has to carry of its item. -/
structure Ticket where
  token : Nat
  index : Nat
  input : Input

/-- The ticket of an item. -/
def WriteItem.ticket (i : WriteItem) : Ticket :=
  ⟨i.token, i.index, i.input⟩

/-- The ticket of an outcome. -/
def ItemOutcome.ticket (o : ItemOutcome) : Ticket :=
  ⟨o.token, o.index, o.input⟩

/-- Sending an item leaves its ticket. -/
@[simp] theorem WriteItem.ticket_sent (i : WriteItem) : i.sent.ticket = i.ticket := rfl

/-- An outcome has the ticket of its item. -/
@[simp] theorem WriteItem.ticket_outcome (i : WriteItem) (o : Outcome) :
    (i.outcome o).ticket = i.ticket := rfl

/-- A failure has the ticket of its item. -/
@[simp] theorem WriteItem.ticket_failed (i : WriteItem) (entity : String) (e : Failure)
    (retryable : Bool) : (i.failed entity e retryable).ticket = i.ticket := rfl

/-- The tickets of some items. -/
def WriteItem.tickets (items : List WriteItem) : Multiset Ticket :=
  (items.map WriteItem.ticket : List Ticket)

/-- The tickets of some outcomes. -/
def ItemOutcome.tickets (outcomes : List ItemOutcome) : Multiset Ticket :=
  (outcomes.map ItemOutcome.ticket : List Ticket)

@[simp] theorem WriteItem.tickets_nil : tickets [] = 0 := rfl

@[simp] theorem WriteItem.tickets_append (is js : List WriteItem) :
    tickets (is ++ js) = tickets is + tickets js := by
  simp only [tickets, List.map_append, Multiset.coe_add]

/-- The first item brings its ticket to those of the others. -/
theorem WriteItem.tickets_cons (i : WriteItem) (is : List WriteItem) :
    tickets (i :: is) = tickets [i] + tickets is :=
  tickets_append [i] is

/-- Sending items leaves their tickets. -/
@[simp] theorem WriteItem.tickets_sent (is : List WriteItem) :
    tickets (is.map WriteItem.sent) = tickets is := by
  simp only [tickets, List.map_map, Function.comp_def, ticket_sent]

@[simp] theorem ItemOutcome.tickets_nil : tickets [] = 0 := rfl

@[simp] theorem ItemOutcome.tickets_append (os ps : List ItemOutcome) :
    tickets (os ++ ps) = tickets os + tickets ps := by
  simp only [tickets, List.map_append, Multiset.coe_add]

/-- Tickets do not depend on the order of the outcomes. -/
@[simp] theorem ItemOutcome.tickets_reverse (os : List ItemOutcome) :
    tickets os.reverse = tickets os := by
  simp only [tickets, List.map_reverse, Multiset.coe_reverse]

/-! ### Settling -/

/-- **Settling.** Every item of a batch that was answered is put out or is to be sent again. -/
theorem Submission.tickets_settle (entity : String) (o : WriteOptions) (items : List WriteItem)
    (results : List SubmitResult) (h : results.length = items.length) :
    ItemOutcome.tickets (settle entity o items results).outcomes +
      WriteItem.tickets (settle entity o items results).retry = WriteItem.tickets items := by
  induction items generalizing results with
  | nil => simp [settle]
  | cons i items ih =>
    cases results with
    | nil => cases h
    | cons r results =>
      -- an item alone is put out or goes to the retries, never both
      have hone : ItemOutcome.tickets (settleOne entity o i r).outcomes +
          WriteItem.tickets (settleOne entity o i r).retry = WriteItem.tickets [i] := by
        cases r with
        | done response => rfl
        | failed e retryable =>
          unfold settleOne
          dsimp only
          split
          · rfl
          · rfl
      rw [settle, Settlement.append, ItemOutcome.tickets_append, WriteItem.tickets_append,
        WriteItem.tickets_cons, ← hone, ← ih results (Nat.succ.inj h)]
      abel

variable {σ : Type}

/-- Every request has a result, whatever the service answers. -/
theorem Submission.length_submit {service : Service σ} {o : WriteOptions}
    {requests : List WriteRequest} {w w' : World σ} {results : List SubmitResult}
    (h : (submit service o requests).runOn w = (.ok results, w')) :
    results.length = requests.length := by
  unfold submit at h
  split at h
  · unfold submitOne at h
    obtain ⟨r, w₁, _, h⟩ := Call.bind_eq_ok h
    obtain ⟨r', w₂, _, h⟩ := Call.bind_eq_ok h
    cases r' with
    | ok response => cases h; rfl
    | error e => cases h; rfl
  · unfold submitAll at h
    obtain ⟨r, w₁, _, h⟩ := Call.bind_eq_ok h
    obtain ⟨r', w₂, _, h⟩ := Call.bind_eq_ok h
    cases r' with
    -- a batch that fails as a whole, or has too many or too few results, fails item by item
    | error e => cases h; exact List.length_map _
    | ok results =>
      dsimp only at h
      split at h
      · rename_i hlength
        cases h
        rw [List.length_map, hlength]
      · cases h
        exact List.length_map _

/-! ### The tickets of a run -/

namespace Pipeline

/-- The tickets of the items that the producer has yet to pass on. -/
def Producer.tickets : Producer → Multiset Ticket
  | .filling items => WriteItem.tickets items
  | .sending batch items => WriteItem.tickets batch + WriteItem.tickets items
  | .closing batch => WriteItem.tickets batch
  | _ => 0

@[simp] theorem Producer.tickets_filling (items : List WriteItem) :
    (filling items).tickets = WriteItem.tickets items := rfl

@[simp] theorem Producer.tickets_sending (batch items : List WriteItem) :
    (sending batch items).tickets = WriteItem.tickets batch + WriteItem.tickets items := rfl

@[simp] theorem Producer.tickets_closing (batch : List WriteItem) :
    (closing batch).tickets = WriteItem.tickets batch := rfl

@[simp] theorem Producer.tickets_finished : finished.tickets = 0 := rfl

/-- The tickets of the items that a worker has to bring to an end. -/
def Worker.tickets : Worker → Multiset Ticket
  | .calling items => WriteItem.tickets items
  | .waiting _ items => WriteItem.tickets items
  | _ => 0

@[simp] theorem Worker.tickets_idle : idle.tickets = 0 := rfl

@[simp] theorem Worker.tickets_gone : gone.tickets = 0 := rfl

@[simp] theorem Worker.tickets_calling (items : List WriteItem) :
    (calling items).tickets = WriteItem.tickets items := rfl

@[simp] theorem Worker.tickets_waiting (due : Nat) (items : List WriteItem) :
    (waiting due items).tickets = WriteItem.tickets items := rfl

/-- The tickets of an input that was read: those of its items, or the one of its failure. -/
def Reading.tickets (r : Reading) : Multiset Ticket :=
  match r.result with
  | .ok items => WriteItem.tickets items
  | .error _ => {⟨r.last + 1, r.index, r.input⟩}

namespace Run

/-- The tickets of all items on their way and of all outcomes. -/
def tickets (s : Run σ) : Multiset Ticket :=
  s.producer.tickets + WriteItem.tickets s.batch + (s.queue.map WriteItem.tickets).sum +
    (s.workers.map Worker.tickets).sum + ItemOutcome.tickets s.outcomes

/-- A line of the journal leaves the tickets. -/
@[simp] theorem tickets_note (s : Run σ) (line : JournalLine) :
    (s.note line).tickets = s.tickets := rfl

/-- Lines of the journal leave the tickets. -/
@[simp] theorem tickets_notes (s : Run σ) (lines : List JournalLine) :
    (s.notes lines).tickets = s.tickets := rfl

/-- Outcomes that are put out bring their tickets. -/
@[simp] theorem tickets_emit (s : Run σ) (outcomes : List ItemOutcome) :
    (s.emit outcomes).tickets = s.tickets + ItemOutcome.tickets outcomes := by
  simp only [tickets, emit, ItemOutcome.tickets_append, ItemOutcome.tickets_reverse]
  abel

/-- Items that fail have outcomes with their tickets. -/
@[simp] theorem tickets_failItems (s : Run σ) (entity : String) (items : List WriteItem)
    (e : Failure) : (s.failItems entity items e).tickets = s.tickets + WriteItem.tickets items := by
  have hfailed : ItemOutcome.tickets (items.map fun i => i.failed entity e false) =
      WriteItem.tickets items := by
    simp only [ItemOutcome.tickets, WriteItem.tickets, List.map_map, Function.comp_def,
      WriteItem.ticket_failed]
  rw [failItems, tickets_emit, hfailed]

/-- The items of a worker are exchanged for those that it works on next. -/
theorem tickets_setWorker {s : Run σ} {id : Nat} {w : Worker} (hw : s.workers[id]? = some w)
    (w' : Worker) : (s.setWorker id w').tickets + w.tickets = s.tickets + w'.tickets := by
  -- the sum over the workers changes in one place only
  have hsum : ∀ (workers : List Worker) (id : Nat), workers[id]? = some w →
      ((workers.set id w').map Worker.tickets).sum + w.tickets =
        (workers.map Worker.tickets).sum + w'.tickets := by
    intro workers
    induction workers with
    | nil => exact fun id h => nomatch h
    | cons w₀ workers ih =>
      intro id h
      cases id with
      | zero =>
        cases Option.some.inj h
        simp only [List.set_cons_zero, List.map_cons, List.sum_cons]
        abel
      | succ id =>
        have hrest := ih id h
        simp only [List.set_cons_succ, List.map_cons, List.sum_cons]
        rw [add_assoc, hrest, add_assoc]
  have hworkers := hsum s.workers id hw
  simp only [tickets, setWorker]
  rw [add_right_comm _ (ItemOutcome.tickets _) w.tickets, add_assoc _ _ w.tickets, hworkers]
  abel

end Run

/-- A batch that leaves the producer is queued or put out. -/
theorem tickets_sendBatch (p : Pipeline σ) (s : Run σ) (batch : List WriteItem) :
    (p.sendBatch s batch).tickets = s.tickets + WriteItem.tickets batch := by
  unfold sendBatch
  split
  · simp only [Run.tickets, List.map_append, List.map_cons, List.map_nil, List.sum_append,
      List.sum_cons, List.sum_nil]
    abel
  · exact Run.tickets_failItems _ _ _ _

/-- A producer that ends drops the open batch. -/
theorem tickets_finish (p : Pipeline σ) (s : Run σ) :
    (p.finish s).tickets + s.producer.tickets + WriteItem.tickets s.batch = s.tickets := by
  rw [finish, Run.tickets_note]
  simp only [Run.tickets, Producer.tickets_finished, WriteItem.tickets_nil]
  abel

/-- A producer that reads no more has passed on its open batch. -/
theorem tickets_leave {p : Pipeline σ} {s : Run σ} (hproducer : s.producer.tickets = 0) :
    (p.leave s).tickets = s.tickets := by
  unfold leave
  split
  · rename_i hempty
    have hbatch : s.batch = [] := List.isEmpty_iff.1 hempty
    have h := p.tickets_finish s
    rwa [hproducer, hbatch, WriteItem.tickets_nil, add_zero, add_zero] at h
  · split
    · -- what is dropped here was put out before
      have h := p.tickets_finish (s.failItems p.entity.name s.batch (.of .cancelled))
      rw [Run.tickets_failItems] at h
      have hdrop : (s.failItems p.entity.name s.batch (.of .cancelled)).producer.tickets +
          WriteItem.tickets (s.failItems p.entity.name s.batch (.of .cancelled)).batch =
            WriteItem.tickets s.batch := by
        show s.producer.tickets + WriteItem.tickets s.batch = _
        rw [hproducer, zero_add]
      rw [add_assoc, hdrop] at h
      exact add_right_cancel h
    · simp only [Run.tickets, Producer.tickets_closing, WriteItem.tickets_nil, hproducer]
      abel

/-- An item goes from the producer into the open batch, and a full batch back to it. -/
theorem tickets_fill {p : Pipeline σ} {s : Run σ} {i : WriteItem} {rest : List WriteItem}
    (hproducer : s.producer = .filling (i :: rest)) : (p.fill s i rest).tickets = s.tickets := by
  unfold fill
  dsimp only
  split
  · simp only [Run.tickets, hproducer, Producer.tickets_sending, Producer.tickets_filling,
      WriteItem.tickets_append, WriteItem.tickets_cons i rest, WriteItem.tickets_nil]
    abel
  · simp only [Run.tickets, hproducer, Producer.tickets_filling, WriteItem.tickets_append,
      WriteItem.tickets_cons i rest]
    abel

/-- The producer changes what it does to something with the same items. -/
theorem Run.tickets_setProducer {s : Run σ} {producer : Producer}
    (h : producer.tickets = s.producer.tickets) : (s.setProducer producer).tickets = s.tickets := by
  simp only [tickets, setProducer, h]

/-- What the producer does when it reads no input leaves the tickets as they are. -/
theorem tickets_passing {p : Pipeline σ} {s t : Run σ} (h : p.Passing s t)
    (hbatch : ∀ batch, s.producer = .closing batch → s.batch = []) : t.tickets = s.tickets := by
  -- whether a batch is queued or put out, the producer still has to go on from it
  have hkept : ∀ batch, (p.sendBatch s batch).producer = s.producer ∧
      (p.sendBatch s batch).batch = s.batch := by
    intro batch
    unfold sendBatch
    split <;> exact ⟨rfl, rfl⟩
  cases h with
  | leave hidle =>
    refine tickets_leave ?_
    rcases hidle with hreading | ⟨due, hawaiting⟩
    · rw [hreading]
      rfl
    · rw [hawaiting]
      rfl
  | ask due hreading => exact Run.tickets_setProducer (by rw [hreading]; rfl)
  | resume hfilling => exact Run.tickets_setProducer (by rw [hfilling]; rfl)
  | fill hfilling => exact tickets_fill hfilling
  | @send batch rest hsending =>
    have hsent := p.tickets_sendBatch s batch
    have hset : ((p.sendBatch s batch).setProducer (.filling rest)).tickets +
        WriteItem.tickets batch = (p.sendBatch s batch).tickets := by
      simp only [Run.tickets, Run.setProducer, (hkept batch).1, hsending,
        Producer.tickets_sending, Producer.tickets_filling]
      abel
    exact add_right_cancel (hset.trans hsent)
  | @close batch hclosing =>
    have hsent := p.tickets_sendBatch s batch
    have hfinish := p.tickets_finish (p.sendBatch s batch)
    rw [(hkept batch).1, (hkept batch).2, hclosing, hbatch batch hclosing,
      WriteItem.tickets_nil, add_zero, hsent] at hfinish
    exact add_right_cancel hfinish

/-- The classification of an input brings in the tickets of the reading. -/
theorem tickets_classified {p : Pipeline σ} {s : Run σ} {i : Input}
    {result : Answer (List WriteItem)} {last : Nat} (hproducer : s.producer.tickets = 0)
    (hresult : result ≠ .error .breach) :
    (p.classified s i (.ok (result, last))).tickets =
      s.tickets + Reading.tickets ⟨s.read, i, result, last⟩ := by
  cases result with
  | ok items =>
    simp only [classified, Run.tickets, hproducer, Producer.tickets_filling, Reading.tickets]
    abel
  | error e =>
    -- the failure takes the next token, and that is the one ticket of the reading
    have hfailed : p.classified s i (.ok (.error e, last)) =
        p.emitInputFailed { s with lastToken := last } i e := by
      cases e with
      | breach => exact absurd rfl hresult
      | error => rfl
    rw [hfailed, emitInputFailed, Run.tickets_emit, Run.tickets_notes]
    have hreading : Producer.reading.tickets = 0 := rfl
    simp only [Run.tickets, hproducer, hreading]
    rfl

/-- A worker that goes on with what it has settled keeps the items that it sends again. -/
theorem tickets_settled {p : Pipeline σ} {s : Run σ} {id : Nat} {items : List WriteItem}
    {r : Submission.Settlement} (hw : s.workers[id]? = some (.calling items))
    (hr : ItemOutcome.tickets r.outcomes + WriteItem.tickets r.retry = WriteItem.tickets items) :
    (p.settled s id r).tickets = s.tickets := by
  have hput : ((s.emit r.outcomes).notes r.journal).tickets =
      s.tickets + ItemOutcome.tickets r.outcomes := by
    rw [Run.tickets_notes, Run.tickets_emit]
  -- the worker has the items that are left, whether it waits for them or has none
  have hset : ∀ w : Worker, w.tickets = WriteItem.tickets r.retry →
      (((s.emit r.outcomes).notes r.journal).setWorker id w).tickets = s.tickets := by
    intro w htickets
    have h := Run.tickets_setWorker (s := (s.emit r.outcomes).notes r.journal) hw w
    rw [hput, htickets, add_assoc, hr] at h
    exact add_right_cancel h
  unfold settled
  dsimp only
  split
  · rename_i hretry
    exact hset .idle (by rw [hretry]; rfl)
  · exact hset _ rfl

/-- The service has a result for each item, and each comes to its end or is sent again. -/
theorem tickets_answered {p : Pipeline σ} {s t : Run σ} {id : Nat} {items : List WriteItem}
    {results : List SubmitResult} (hw : s.workers[id]? = some (.calling items))
    (hcall : p.submission s items = (.ok results, t)) :
    (p.submitted t id items (.ok results)).tickets = s.tickets := by
  have hresults : results.length = items.length := by
    have hrun : (Submission.submit p.service p.options (items.map (·.request))).runOn s.world =
        (.ok results, t.world) :=
      Prod.ext (congrArg (·.1) hcall) (congrArg (·.2.world) hcall)
    rw [Submission.length_submit hrun, List.length_map]
  obtain ⟨world, cancelled, rfl⟩ := eq_of_submission hcall
  exact tickets_settled (s := { s with world, cancelled }) hw
    (Submission.tickets_settle _ _ _ _ hresults)

/-- Items that are sent are the same items. -/
theorem tickets_send {s : Run σ} {id : Nat} {w : Worker} (items : List WriteItem)
    (hw : s.workers[id]? = some w) :
    (send s id items).tickets + w.tickets = s.tickets + WriteItem.tickets items := by
  have h := Run.tickets_setWorker hw (.calling (items.map WriteItem.sent))
  rwa [Worker.tickets_calling, WriteItem.tickets_sent] at h

/-- A batch goes from the queue to the worker that takes it, or it is put out. -/
theorem tickets_receive {p : Pipeline σ} {s : Run σ} {id : Nat}
    (hw : s.workers[id]? = some .idle) : (p.receive s id).tickets = s.tickets := by
  unfold receive
  cases hqueue : s.queue with
  | nil =>
    have h := Run.tickets_setWorker hw .gone
    dsimp only
    rwa [Worker.tickets_idle, Worker.tickets_gone, add_zero, add_zero] at h
  | cons batch queue =>
    -- between the queue and the worker the batch is nowhere, its tickets are owed
    have htaken : ({ s with queue } : Run σ).tickets + WriteItem.tickets batch = s.tickets := by
      simp only [Run.tickets, hqueue, List.map_cons, List.sum_cons]
      abel
    dsimp only
    split
    · rw [Run.tickets_failItems, htaken]
    · have h := tickets_send (s := ({ s with queue } : Run σ).note (p.receiveLine id batch))
        batch hw
      rwa [Worker.tickets_idle, add_zero, Run.tickets_note, htaken] at h

/-- Items that waited are sent, or they are put out because the run is cancelled. -/
theorem tickets_wake {p : Pipeline σ} {s : Run σ} {id due : Nat} {items : List WriteItem}
    (hw : s.workers[id]? = some (.waiting due items)) :
    (if s.cancelled then p.abandon s id items else send s id items).tickets = s.tickets := by
  split
  · unfold abandon
    dsimp only
    have h := Run.tickets_setWorker
      (s := (s.failItems p.entity.name items (.of .cancelled)).notes
        (items.map fun i => Submission.failureLine p.entity.name i (.of .cancelled)))
      hw .idle
    rw [Run.tickets_notes, Run.tickets_failItems, Worker.tickets_waiting, Worker.tickets_idle,
      add_zero] at h
    exact add_right_cancel h
  · have h := tickets_send items hw
    exact add_right_cancel h

end Pipeline

end RecordService
