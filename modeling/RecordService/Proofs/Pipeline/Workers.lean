import RecordService.Proofs.Pipeline.Effects

namespace RecordService

/-!
# What one worker does

Seen from one worker, most steps of a run are done by others. Its own steps are three: it takes a
batch or leaves, it is answered, or its wait ends. When it is answered, each of its items ends or is
sent again, by the result at its place.

* `Submission.isRetried`, `Submission.ending`: what a result makes of an item.
* `Submission.outcomes_settle`, `Submission.retry_settle_eq`: what becomes of all items.
* `Pipeline.worker_step`: all other steps leave it at what it does.
* `Pipeline.outcomes_step`: outcomes that were put out stay.
-/

/-! ### Items that are answered -/

namespace Submission

/-- Whether an item is sent again after a result. -/
def isRetried (o : WriteOptions) (i : WriteItem) : SubmitResult → Bool
  | .done _ => false
  | .failed _ retryable => retries o i retryable

/-- The outcome of an item that is not sent again. -/
def ending (entity : String) (o : WriteOptions) (i : WriteItem) : SubmitResult → ItemOutcome
  | .done response => succeeded entity o i response
  | .failed e retryable => i.failed entity e retryable

/-- What an item ends with has its ticket. -/
@[simp] theorem ticket_ending (entity : String) (o : WriteOptions) (i : WriteItem)
    (r : SubmitResult) : (ending entity o i r).ticket = i.ticket := by
  cases r <;> rfl

/-- What an item ends with has its attempts. -/
@[simp] theorem attempts_ending (entity : String) (o : WriteOptions) (i : WriteItem)
    (r : SubmitResult) : (ending entity o i r).attempts = i.attempts := by
  cases r <;> rfl

/-- An item is to be sent again exactly if its result asks for that. -/
theorem retry_settleOne (entity : String) (o : WriteOptions) (i : WriteItem) (r : SubmitResult) :
    (settleOne entity o i r).retry = if isRetried o i r then [i] else [] := by
  cases r with
  | done response => rfl
  | failed e retryable =>
    rw [settleOne, isRetried]
    split <;> rfl

/-- An item has an outcome exactly if it is not to be sent again. -/
theorem outcomes_settleOne (entity : String) (o : WriteOptions) (i : WriteItem)
    (r : SubmitResult) :
    (settleOne entity o i r).outcomes =
      if isRetried o i r then [] else [ending entity o i r] := by
  cases r with
  | done response => rfl
  | failed e retryable =>
    rw [settleOne, isRetried]
    split <;> rfl

/-- The items that are sent again keep their order. -/
theorem retry_settle_eq (entity : String) (o : WriteOptions) (items : List WriteItem)
    (results : List SubmitResult) :
    (settle entity o items results).retry =
      ((items.zip results).filter fun x => isRetried o x.1 x.2).map Prod.fst := by
  induction items generalizing results with
  | nil => rfl
  | cons i items ih =>
    cases results with
    | nil => rfl
    | cons r results =>
      rw [settle, Settlement.append, retry_settleOne, ih, List.zip_cons_cons, List.filter_cons]
      cases isRetried o i r <;> rfl

/-- The items that are not sent again end in order. -/
theorem outcomes_settle (entity : String) (o : WriteOptions) (items : List WriteItem)
    (results : List SubmitResult) :
    (settle entity o items results).outcomes =
      ((items.zip results).filter fun x => !isRetried o x.1 x.2).map
        fun x => ending entity o x.1 x.2 := by
  induction items generalizing results with
  | nil => rfl
  | cons i items ih =>
    cases results with
    | nil => rfl
    | cons r results =>
      rw [settle, Settlement.append, outcomes_settleOne, ih, List.zip_cons_cons, List.filter_cons]
      cases isRetried o i r <;> rfl

end Submission

namespace Pipeline

variable {σ : Type} {p : Pipeline σ}

/-! ### The others -/

/-- A worker that changes what it does leaves the others alone. -/
theorem getElem?_setWorker_ne {id other : Nat} (hne : id ≠ other) (s : Run σ) (w : Worker) :
    (s.setWorker id w).workers[other]? = s.workers[other]? :=
  List.getElem?_set_ne hne

/-- A worker that turns to something else is where it was. -/
theorem getElem?_setWorker_self {s : Run σ} {id : Nat} {w : Worker}
    (hw : s.workers[id]? = some w) (w' : Worker) :
    (s.setWorker id w').workers[id]? = some w' :=
  List.getElem?_set_self (List.getElem?_eq_some_iff.1 hw).1

/-- Steps of a worker leave the others alone. -/
theorem getElem?_working_ne {s t : Run σ} {id other : Nat} (h : p.Working s id t)
    (hne : id ≠ other) : t.workers[other]? = s.workers[other]? := by
  cases h with
  | receive =>
    unfold receive
    cases s.queue with
    | nil => exact getElem?_setWorker_ne hne s .gone
    | cons batch queue =>
      dsimp only
      split
      · rfl
      · exact getElem?_setWorker_ne hne s _
  | @answer u items results hw hcall =>
    obtain ⟨world, cancelled, rfl⟩ := eq_of_submission hcall
    obtain ⟨w, hworkers, -⟩ := workers_settled (p := p) { s with world, cancelled } id
      (Submission.settle p.entity.name p.options items results)
    exact (congrArg (·[other]?) hworkers).trans (List.getElem?_set_ne hne)
  | wake =>
    split
    · exact getElem?_setWorker_ne hne s .idle
    · exact getElem?_setWorker_ne hne s _

/-- **Steps of one worker.** A step is one of the worker, or it leaves the worker at what it
does. -/
theorem worker_step {s t : Run σ} {r : Option Reading} (hstep : p.Step s r t) (id : Nat) :
    t.workers[id]? = s.workers[id]? ∨ p.Working s id t := by
  have hown : ∀ {other : Nat}, p.Working s other t →
      t.workers[id]? = s.workers[id]? ∨ p.Working s id t := by
    intro other h
    by_cases hid : other = id
    · exact .inr (hid ▸ h)
    · exact .inl (getElem?_working_ne h hid)
  cases hstep with
  | pass => exact .inl rfl
  | cancel => exact .inl rfl
  | read hread hinputs hcall hresult =>
    have hworkers := (queued_read (.read hread hinputs hcall hresult)).2
    exact .inl (congrArg (·[id]?) hworkers)
  | produce hdue hnone =>
    exact .inl (congrArg (·[id]?) (workers_passing (passing_produce hdue hnone)))
  | receive hw hdue => exact hown (.receive hw hdue)
  | answer hw hcall => exact hown (.answer hw hcall)
  | wake hw => exact hown (.wake hw)

/-! ### Outcomes stay -/

/-- Outcomes that are put out come after those that are there. -/
theorem outcomes_emit (s : Run σ) (outcomes : List ItemOutcome) :
    s.outcomes <:+ (s.emit outcomes).outcomes :=
  List.suffix_append _ _

/-- Sending a batch takes no outcome back. -/
theorem outcomes_sendBatch (s : Run σ) (batch : List WriteItem) :
    s.outcomes <:+ (p.sendBatch s batch).outcomes := by
  unfold sendBatch
  split
  · exact List.suffix_refl _
  · exact outcomes_emit s _

/-- What the producer does by itself takes no outcome back. -/
theorem outcomes_passing {s t : Run σ} (h : p.Passing s t) : s.outcomes <:+ t.outcomes := by
  cases h with
  | leave =>
    unfold leave
    split
    · exact List.suffix_refl _
    · split
      · exact outcomes_emit s _
      · exact List.suffix_refl _
  | ask => exact List.suffix_refl _
  | resume => exact List.suffix_refl _
  | fill =>
    unfold fill
    dsimp only
    split <;> exact List.suffix_refl _
  | send => exact outcomes_sendBatch s _
  | close => exact outcomes_sendBatch s _

/-- After an answer a worker is idle, or it waits if there is something to send again. -/
theorem getElem?_settled {s : Run σ} {id : Nat} {w : Worker} (hw : s.workers[id]? = some w)
    (r : Submission.Settlement) :
    r.retry = [] ∧ (p.settled s id r).workers[id]? = some .idle ∨
      r.retry ≠ [] ∧ ∃ due, (p.settled s id r).workers[id]? = some (.waiting due r.retry) := by
  unfold settled
  dsimp only
  split
  · rename_i hretry
    exact .inl ⟨hretry, getElem?_setWorker_self (s := (s.emit r.outcomes).notes r.journal) hw _⟩
  · rename_i i rest hretry
    have hsome : r.retry ≠ [] := by
      rw [hretry]
      exact List.cons_ne_nil _ _
    exact .inr ⟨hsome, s.time + p.options.retryDelay i.attempts,
      getElem?_setWorker_self (s := (s.emit r.outcomes).notes r.journal) hw _⟩

/-- The outcomes of an answer come after those that are there. -/
theorem outcomes_settled (s : Run σ) (id : Nat) (r : Submission.Settlement) :
    (p.settled s id r).outcomes = r.outcomes.reverse ++ s.outcomes := by
  unfold settled
  dsimp only
  split <;> rfl

/-- What a worker does takes no outcome back. -/
theorem outcomes_working {s t : Run σ} {id : Nat} (h : p.Working s id t) :
    s.outcomes <:+ t.outcomes := by
  cases h with
  | receive =>
    unfold receive
    cases s.queue with
    | nil => exact List.suffix_refl _
    | cons batch queue =>
      dsimp only
      split
      · exact outcomes_emit _ _
      · exact List.suffix_refl _
  | @answer u items results hw hcall =>
    obtain ⟨world, cancelled, rfl⟩ := eq_of_submission hcall
    show _ <:+ (p.settled _ id _).outcomes
    rw [outcomes_settled]
    exact List.suffix_append _ _
  | wake =>
    split
    · exact outcomes_emit s _
    · exact List.suffix_refl _

/-- Outcomes that were put out stay. -/
theorem outcomes_step {s t : Run σ} {r : Option Reading} (hstep : p.Step s r t) :
    s.outcomes <:+ t.outcomes := by
  cases hstep with
  | pass => exact List.suffix_refl _
  | cancel => exact List.suffix_refl _
  | @read u i rest result last hread hinputs hcall hresult =>
    obtain ⟨world, cancelled, rfl⟩ := eq_of_classification hcall
    cases result with
    | ok items => exact List.suffix_refl _
    | error e =>
      cases e with
      | breach => exact absurd rfl hresult
      | error => exact List.suffix_append _ _
  | produce hdue hnone => exact outcomes_passing (passing_produce hdue hnone)
  | receive hw hdue => exact outcomes_working (.receive hw hdue)
  | answer hw hcall => exact outcomes_working (.answer hw hcall)
  | wake hw => exact outcomes_working (.wake hw)

/-! ### Calls -/

/-- What the service answers in a run is what it answers on the world of the run. -/
theorem submit_of_submission {s t : Run σ} {items : List WriteItem} {results : List SubmitResult}
    (hcall : p.submission s items = (.ok results, t)) :
    (Submission.submit p.service p.options (items.map (·.request))).runOn s.world =
      (.ok results, t.world) :=
  Prod.ext (congrArg (·.1) hcall) (congrArg (·.2.world) hcall)

/-- Every item of a call has a result. -/
theorem length_of_submission {s t : Run σ} {items : List WriteItem} {results : List SubmitResult}
    (hcall : p.submission s items = (.ok results, t)) : results.length = items.length := by
  rw [Submission.length_submit (submit_of_submission hcall), List.length_map]

end Pipeline

end RecordService
