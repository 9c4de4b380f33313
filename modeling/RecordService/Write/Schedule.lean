import RecordService.Write.Pipeline

namespace RecordService.Pipeline

/-!
# Running the pipeline

A run goes on with the actor that can act earliest, until nobody can act. At the same time the
service answers first, then the producer acts, then the workers in their order. A run ends, since
every step uses something up: the time of the cancellation, an input, the work of the producer, or
the work of the workers.

* `Pipeline.next?`: who acts next, and when.
* `Pipeline.run`: a run to its end.
* `Pipeline.prepare`: the pipeline for an entity of a service.
* `Pipeline.write`: a run that writes inputs.
-/

variable {σ : Type}

/-! ### Who acts next -/

/-- Whether a worker has items with the service. -/
def isCalling (s : Run σ) (id : Nat) : Bool :=
  match s.workers[id]? with
  | some (.calling _) => true
  | _ => false

/-- All actors, in the order in which they act at the same time. -/
def actors (s : Run σ) : List Actor :=
  let ids := List.range s.workers.length
  (ids.filter (isCalling s)).map .worker ++ .producer :: ids.map .worker ++ [.canceller]

/-- The earlier one of two possible steps, the first one if they are at the same time. -/
def earlier (a b : Option (Actor × Nat)) : Option (Actor × Nat) :=
  match a, b with
  | some a, some b => if b.2 < a.2 then some b else some a
  | some a, none => some a
  | none, b => b

/-- The earliest step of some actors. -/
def earliest? (p : Pipeline σ) (s : Run σ) : List Actor → Option (Actor × Nat)
  | [] => none
  | a :: rest => earlier ((p.due? s a).map fun t => (a, t)) (earliest? p s rest)

/-- Who acts next, and when. -/
def next? (p : Pipeline σ) (s : Run σ) : Option (Actor × Nat) :=
  p.earliest? s (actors s)

/-- The earlier of two is one of them. -/
theorem earlier_eq_some {a b : Option (Actor × Nat)} {x : Actor × Nat}
    (h : earlier a b = some x) : a = some x ∨ b = some x := by
  unfold earlier at h
  split at h
  · split at h
    · exact .inr h
    · exact .inl h
  · exact .inl h
  · exact .inr h

/-- Whoever is first among some actors is due when it says. -/
theorem due?_of_earliest? {p : Pipeline σ} {s : Run σ} {actors : List Actor} {a : Actor} {t : Nat}
    (h : p.earliest? s actors = some (a, t)) : p.due? s a = some t := by
  induction actors with
  | nil => simp [earliest?] at h
  | cons b rest ih =>
    rw [earliest?] at h
    rcases earlier_eq_some h with h | h
    · obtain ⟨t', ht, heq⟩ := Option.map_eq_some_iff.1 h
      cases heq
      exact ht
    · exact ih h

/-- Whoever is next among all actors is due when it says. -/
theorem due?_of_next? {p : Pipeline σ} {s : Run σ} {a : Actor} {t : Nat}
    (h : p.next? s = some (a, t)) : p.due? s a = some t :=
  due?_of_earliest? h

/-! ### What is left to do -/

/-- The steps that the producer can take without another input. -/
def Producer.work : Producer → Nat
  | finished => 0
  | closing _ => 1
  | awaiting _ => 2
  | reading => 3
  | filling items => 4 + 2 * items.length
  | sending _ items => 5 + 2 * items.length

/-- How often items can be sent, taken together. -/
def itemsWork (o : WriteOptions) (items : List WriteItem) : Nat :=
  (items.map fun i => o.retries + 1 - i.attempts).sum

/-- How often items that are with the service can be sent, taken together, this time included. -/
def callWork (o : WriteOptions) (items : List WriteItem) : Nat :=
  (items.map fun i => o.retries + 2 - i.attempts).sum

/-- The work that a batch in the queue stands for. -/
def batchWork (o : WriteOptions) (items : List WriteItem) : Nat :=
  3 + 2 * itemsWork o items

/-- The work that a worker has. -/
def workerWork (o : WriteOptions) : Worker → Nat
  | .idle => 1
  | .calling items => 2 + 2 * callWork o items
  | .waiting _ items => 3 + 2 * itemsWork o items
  | .gone => 0

/-- The work in the queue and with the workers. -/
def sendWork (o : WriteOptions) (s : Run σ) : Nat :=
  (s.queue.map (batchWork o)).sum + (s.workers.map (workerWork o)).sum

/-- What is left to do: whether there is a cancellation to come, the inputs, the work of the
producer and the work of the workers. The first that changes is the first that shrinks. -/
abbrev Remaining := Nat × Nat × Nat × Nat

/-- What is left to do in a run. -/
def remaining (p : Pipeline σ) (s : Run σ) : Remaining :=
  (if s.cancelAt.isSome then 1 else 0, s.inputs.length, s.producer.work, sendWork p.options s)

/-- Less is left to do. -/
def Remaining.Less : Remaining → Remaining → Prop :=
  Prod.Lex (· < ·) (Prod.Lex (· < ·) (Prod.Lex (· < ·) (· < ·)))

/-- What remains of a run gets less only finitely often. -/
theorem Remaining.less_wf : WellFounded Remaining.Less :=
  (Prod.lex Nat.lt_wfRel (Prod.lex Nat.lt_wfRel (Prod.lex Nat.lt_wfRel Nat.lt_wfRel))).wf

/-! ### Steps of the producer -/

/-- Two runs agree in what the producer works on and in the coming cancellation. -/
def SameInputs (s t : Run σ) : Prop :=
  t.cancelAt = s.cancelAt ∧ t.inputs = s.inputs

/-- A producer with less work brings the end closer if the inputs and the cancellation stay,
whatever workers do. -/
theorem less_of_producer {p : Pipeline σ} {s t : Run σ} (h : SameInputs s t)
    (hw : t.producer.work < s.producer.work) :
    Remaining.Less (p.remaining t) (p.remaining s) := by
  obtain ⟨hc, hi⟩ := h
  simp only [remaining, hc, hi]
  exact .right _ (.right _ (.left _ _ hw))

/-- An input that was taken brings the end closer, whatever producer and workers do. -/
theorem less_of_inputs {p : Pipeline σ} {s t : Run σ} (hc : t.cancelAt = s.cancelAt)
    (hi : t.inputs.length < s.inputs.length) :
    Remaining.Less (p.remaining t) (p.remaining s) := by
  simp only [remaining, hc]
  exact .right _ (.left _ _ hi)

/-- Sending a batch leaves the inputs and the cancellation as they are. -/
theorem sendBatch_same (p : Pipeline σ) (s : Run σ) (batch : List WriteItem) :
    SameInputs s (p.sendBatch s batch) := by
  unfold sendBatch
  split <;> exact ⟨rfl, rfl⟩

/-- A producer that leaves takes no input, and has at most a last batch to send. -/
theorem leave_same (p : Pipeline σ) (s : Run σ) :
    SameInputs s (p.leave s) ∧ (p.leave s).producer.work ≤ 1 := by
  unfold leave
  split
  · exact ⟨⟨rfl, rfl⟩, Nat.zero_le _⟩
  · split
    · exact ⟨⟨rfl, rfl⟩, Nat.zero_le _⟩
    · exact ⟨⟨rfl, rfl⟩, Nat.le_refl _⟩

/-- Whatever becomes of an input, the inputs after it and the cancellation stay as they are. -/
theorem classified_same (p : Pipeline σ) (s : Run σ) (i : Input)
    (r : Answer (Answer (List WriteItem) × Nat)) : SameInputs s (p.classified s i r) := by
  unfold classified
  split <;> exact ⟨rfl, rfl⟩

/-- Taking an input takes the first one off the inputs and leaves the cancellation. -/
theorem takeInput_inputs (p : Pipeline σ) (s : Run σ) (i : Input) (rest : List Input) :
    (p.takeInput s i rest).cancelAt = s.cancelAt ∧ (p.takeInput s i rest).inputs = rest :=
  classified_same p _ i _

/-- A producer that leaves brings the end closer, unless it had left already. -/
theorem less_of_leave {p : Pipeline σ} {s : Run σ} (h : 1 < s.producer.work) :
    Remaining.Less (p.remaining (p.leave s)) (p.remaining s) :=
  less_of_producer (leave_same p s).1 (Nat.lt_of_le_of_lt (leave_same p s).2 h)

/-- Taking an input brings the end closer. -/
theorem less_of_takeInput {p : Pipeline σ} {s : Run σ} {i : Input} {rest : List Input}
    (h : s.inputs = i :: rest) :
    Remaining.Less (p.remaining (p.takeInput s i rest)) (p.remaining s) := by
  obtain ⟨hc, hi⟩ := takeInput_inputs p s i rest
  exact less_of_inputs hc (by rw [hi, h]; exact Nat.lt_succ_self _)

/-- Putting an item into the batch brings the end closer. -/
theorem less_of_fill {p : Pipeline σ} {s : Run σ} {i : WriteItem} {rest : List WriteItem}
    (h : s.producer = .filling (i :: rest)) :
    Remaining.Less (p.remaining (p.fill s i rest)) (p.remaining s) := by
  apply less_of_producer
  · unfold fill
    dsimp only
    split <;> exact ⟨rfl, rfl⟩
  · unfold fill
    dsimp only
    rw [h]
    split <;> simp only [Producer.work, List.length_cons] <;> omega

/-- A producer that has not finished brings the end closer by whatever it does. -/
theorem less_of_produce {p : Pipeline σ} {s : Run σ} (h : s.producer ≠ .finished) :
    Remaining.Less (p.remaining (p.produce s)) (p.remaining s) := by
  unfold produce
  split
  · rename_i hp
    have hw : 1 < s.producer.work := by rw [hp]; decide
    split
    · exact less_of_leave hw
    · rename_i hi
      split
      · exact less_of_leave hw
      · split
        · exact less_of_takeInput hi
        · exact less_of_producer ⟨rfl, rfl⟩ (by rw [hp]; exact Nat.lt_succ_self 2)
  · rename_i hp
    have hw : 1 < s.producer.work := by rw [hp]; exact Nat.lt_succ_self 1
    split
    · exact less_of_leave hw
    · rename_i hi
      split
      · exact less_of_leave hw
      · exact less_of_takeInput hi
  · rename_i hp
    exact less_of_producer ⟨rfl, rfl⟩ (by rw [hp]; exact Nat.lt_succ_self 3)
  · rename_i hp
    exact less_of_fill hp
  · rename_i batch rest hp
    apply less_of_producer (s := s) (t := (p.sendBatch s batch).setProducer (.filling rest))
      (sendBatch_same p s batch)
    rw [hp]
    simp only [Run.setProducer, Producer.work]
    omega
  · rename_i batch hp
    apply less_of_producer (s := s) (t := p.finish (p.sendBatch s batch))
      (sendBatch_same p s batch)
    rw [hp]
    exact Nat.lt_succ_self 0
  · rename_i hp
    exact absurd hp h

/-! ### Steps of the workers -/

/-- Workers with less work bring the end closer while the producer rests. -/
theorem less_of_sendWork {p : Pipeline σ} {s t : Run σ} (h : SameInputs s t)
    (hp : t.producer = s.producer) (hw : sendWork p.options t < sendWork p.options s) :
    Remaining.Less (p.remaining t) (p.remaining s) := by
  obtain ⟨hc, hi⟩ := h
  simp only [remaining, hc, hi, hp]
  exact .right _ (.right _ (.right _ hw))

/-- Sending items uses up one attempt of each. -/
theorem callWork_sent (o : WriteOptions) (items : List WriteItem) :
    callWork o (items.map WriteItem.sent) = itemsWork o items := by
  simp only [callWork, itemsWork, List.map_map, Function.comp_def, WriteItem.sent]
  congr 2
  funext i
  omega

/-- Items to be sent again are with the service no more, so less of their attempts is left. -/
theorem itemsWork_retry (entity : String) (o : WriteOptions) (items : List WriteItem)
    (results : List SubmitResult) :
    itemsWork o (Submission.settle entity o items results).retry +
      (Submission.settle entity o items results).retry.length ≤ callWork o items := by
  induction items generalizing results with
  | nil => simp [Submission.settle, itemsWork]
  | cons i items ih =>
    cases results with
    | nil => simp [Submission.settle, itemsWork]
    | cons r results =>
      have ih := ih results
      simp only [Submission.settle, Submission.Settlement.append]
      unfold Submission.settleOne
      cases r with
      | done response =>
        simp only [List.nil_append, itemsWork, callWork, List.map_cons, List.sum_cons] at ih ⊢
        omega
      | failed e retryable =>
        dsimp only
        split
        · rename_i hr
          have hr := of_decide_eq_true (Bool.and_eq_true_iff.1 hr).2
          simp only [List.cons_append, List.nil_append, itemsWork, callWork, List.map_cons,
            List.sum_cons, List.length_cons] at ih ⊢
          omega
        · simp only [List.nil_append, itemsWork, callWork, List.map_cons, List.sum_cons] at ih ⊢
          omega

/-- Replacing a member of a list changes a sum over it by the difference of both. -/
theorem sum_set {α : Type} (f : α → Nat) {as : List α} {n : Nat} {a : α} (b : α)
    (h : as[n]? = some a) : ((as.set n b).map f).sum + f a = (as.map f).sum + f b := by
  induction as generalizing n with
  | nil => simp at h
  | cons c cs ih =>
    cases n with
    | zero =>
      simp only [List.getElem?_cons_zero, Option.some.injEq] at h
      subst h
      simp only [List.set_cons_zero, List.map_cons, List.sum_cons]
      omega
    | succ n =>
      simp only [List.getElem?_cons_succ] at h
      have ih := ih h
      simp only [List.set_cons_succ, List.map_cons, List.sum_cons]
      omega

/-- What settling items does to a run: the worker goes on with less work than the call was. -/
theorem settled_same (p : Pipeline σ) (s : Run σ) (id : Nat) (r : Submission.Settlement) :
    SameInputs s (p.settled s id r) ∧ (p.settled s id r).producer = s.producer ∧
      (p.settled s id r).queue = s.queue ∧
      ∃ w, (p.settled s id r).workers = s.workers.set id w ∧
        workerWork p.options w < 2 + 2 * (itemsWork p.options r.retry + r.retry.length) := by
  unfold settled
  dsimp only
  split
  · exact ⟨⟨rfl, rfl⟩, rfl, rfl, .idle, rfl, by simp only [workerWork]; omega⟩
  · rename_i i rest hr
    refine ⟨⟨rfl, rfl⟩, rfl, rfl, _, rfl, ?_⟩
    rw [hr, workerWork, List.length_cons]
    omega

/-- Whatever a submission came to, its worker goes on with less work than the call was, and inputs,
producer and queue stay as they are. -/
theorem submitted_same (p : Pipeline σ) (s : Run σ) (id : Nat) (items : List WriteItem)
    (r : Answer (List SubmitResult)) :
    SameInputs s (p.submitted s id items r) ∧
      (p.submitted s id items r).producer = s.producer ∧
      (p.submitted s id items r).queue = s.queue ∧
      ∃ w, (p.submitted s id items r).workers = s.workers.set id w ∧
        workerWork p.options w < 2 + 2 * callWork p.options items := by
  cases r with
  | error e =>
    exact ⟨⟨rfl, rfl⟩, rfl, rfl, .gone, rfl, by simp only [workerWork]; omega⟩
  | ok results =>
    obtain ⟨hs, hp, hq, w, hw, hlt⟩ := settled_same p s id
      (Submission.settle p.entity.name p.options items results)
    have hle := itemsWork_retry p.entity.name p.options items results
    exact ⟨hs, hp, hq, w, hw, by omega⟩

/-- The answer to a call brings the end closer. -/
theorem less_of_answer {p : Pipeline σ} {s : Run σ} {id : Nat} {items : List WriteItem}
    (h : s.workers[id]? = some (.calling items)) :
    Remaining.Less (p.remaining (p.answer s id items)) (p.remaining s) := by
  let called := p.call s (Submission.submit p.service p.options (items.map (·.request)))
  obtain ⟨hs, hp, hq, w, hw, hlt⟩ := submitted_same p called.2 id items called.1
  refine less_of_sendWork (s := s) hs hp ?_
  have hsum := sum_set (workerWork p.options) w h
  have hq : (p.answer s id items).queue = s.queue := hq
  have hw : (p.answer s id items).workers = s.workers.set id w := hw
  simp only [sendWork, hq, hw]
  simp only [workerWork] at hsum hlt ⊢
  omega

/-- Sending items again brings the end closer. -/
theorem less_of_send {p : Pipeline σ} {s : Run σ} {id due : Nat} {items : List WriteItem}
    (h : s.workers[id]? = some (.waiting due items)) :
    Remaining.Less (p.remaining (send s id items)) (p.remaining s) := by
  refine less_of_sendWork ⟨rfl, rfl⟩ rfl ?_
  have hsum := sum_set (workerWork p.options) (.calling (items.map WriteItem.sent)) h
  simp only [sendWork, send, Run.setWorker]
  simp only [workerWork, callWork_sent] at hsum ⊢
  omega

/-- Giving up items that wait brings the end closer. -/
theorem less_of_abandon {p : Pipeline σ} {s : Run σ} {id due : Nat} {items : List WriteItem}
    (h : s.workers[id]? = some (.waiting due items)) :
    Remaining.Less (p.remaining (p.abandon s id items)) (p.remaining s) := by
  refine less_of_sendWork ⟨rfl, rfl⟩ rfl ?_
  have := sum_set (workerWork p.options) .idle h
  simp only [sendWork, abandon, Run.failItems, Run.emit, Run.notes, Run.setWorker]
  simp only [workerWork] at this ⊢
  omega

/-- A worker that is idle brings the end closer, by taking a batch or by finding that there will be
none. -/
theorem less_of_receive {p : Pipeline σ} {s : Run σ} {id : Nat}
    (h : s.workers[id]? = some .idle) :
    Remaining.Less (p.remaining (p.receive s id)) (p.remaining s) := by
  unfold receive
  split
  · refine less_of_sendWork ⟨rfl, rfl⟩ rfl ?_
    have := sum_set (workerWork p.options) .gone h
    simp only [sendWork, Run.note, Run.setWorker]
    simp only [workerWork] at this ⊢
    omega
  · rename_i batch queue hq
    dsimp only
    split
    · refine less_of_sendWork ⟨rfl, rfl⟩ rfl ?_
      simp only [sendWork, Run.failItems, Run.emit, hq, List.map_cons, List.sum_cons, batchWork]
      omega
    · refine less_of_sendWork ⟨rfl, rfl⟩ rfl ?_
      have hsum := sum_set (workerWork p.options) (.calling (batch.map WriteItem.sent)) h
      simp only [sendWork, send, Run.setWorker, Run.note, hq, List.map_cons, List.sum_cons,
        batchWork]
      simp only [workerWork, callWork_sent] at hsum ⊢
      omega

/-- A worker that is not gone brings the end closer by whatever it does. -/
theorem less_of_work {p : Pipeline σ} {s : Run σ} {id : Nat} {w : Worker}
    (h : s.workers[id]? = some w) (hw : w ≠ .gone) :
    Remaining.Less (p.remaining (p.work s id)) (p.remaining s) := by
  unfold work
  rw [h]
  cases w with
  | idle => exact less_of_receive h
  | calling items => exact less_of_answer h
  | waiting due items =>
    dsimp only
    split
    · exact less_of_abandon h
    · exact less_of_send h
  | gone => exact absurd rfl hw

/-! ### Runs -/

/-- A run at a later time. -/
def Run.at (s : Run σ) (time : Nat) : Run σ :=
  { s with time }

/-- Every step of an actor that can act leaves less to do. -/
theorem less_of_act {p : Pipeline σ} {s : Run σ} {a : Actor} {t : Nat}
    (h : p.due? s a = some t) :
    Remaining.Less (p.remaining (p.act (s.at t) a)) (p.remaining s) := by
  have hs : p.remaining s = p.remaining (s.at t) := rfl
  rw [hs]
  cases a with
  | producer =>
    apply less_of_produce
    intro hf
    have hf : s.producer = .finished := hf
    simp [due?, producerDue?, hf] at h
  | worker id =>
    obtain ⟨w, hw, hd⟩ := Option.bind_eq_some_iff.1 h
    refine less_of_work (s := s.at t) hw ?_
    rintro rfl
    simp [workerDue?] at hd
  | canceller =>
    simp only [due?] at h
    split at h
    · simp at h
    · simp only [remaining, act, Run.cancel, Run.note, Run.at, h, Option.isSome_some,
        Option.isSome_none, if_true]
      exact .left _ _ (by decide)

/-- A run to its end. -/
def run (p : Pipeline σ) (s : Run σ) : Run σ :=
  match _h : p.next? s with
  | none => s
  | some (a, t) => run p (p.act (s.at t) a)
termination_by Remaining.less_wf.wrap (p.remaining s)
decreasing_by exact less_of_act (due?_of_next? ‹_›)

/-- The outcomes of a run in the order of the inputs. -/
def Run.sortedOutcomes (s : Run σ) : List ItemOutcome :=
  s.outcomes.mergeSort ItemOutcome.precedes

/-! ### Writing -/

/-- The line of a run that starts. -/
def startLine (entity : String) (o : WriteOptions) : JournalLine :=
  debugLine <|
    "Writing `" ++ entity ++ "` with batches of " ++ toString o.batchSize ++ " and " ++
      toString o.parallelism ++ " worker(s)"

/-- The pipeline for an entity of a service, which may ask for runs to be cancelled. -/
def prepare (service : Service σ) (entity : String) (options : WriteOptions) (gap : Nat)
    (cancels : σ → Bool) : Call σ (Pipeline σ) := do
  Call.ofAnswer options.validate
  let e ← service.metadata entity
  Call.note (startLine e.name options)
  return ⟨service, e, options, gap, cancels⟩

/-- Write inputs. The run may be cancelled at a time. -/
def write (p : Pipeline σ) (cancelAt : Option Nat) (inputs : List Input) : Call σ (Run σ) := do
  let ended := p.run { p.start (← get) inputs with cancelAt }
  set ended.world
  return ended

end RecordService.Pipeline
