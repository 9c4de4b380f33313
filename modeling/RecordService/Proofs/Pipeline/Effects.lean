import RecordService.Proofs.Pipeline.Pending
import RecordService.Proofs.Store.Applications

namespace RecordService.Pipeline

/-!
# What the actors do to the service and to the outcomes

The state of the service changes, and items succeed, only when a worker is answered. Whatever else
the actors do puts out failures at most.

* `Run.KeepsCalling`: when no worker is answered.
* `Run.answers`: what the items that succeeded were answered.
* `answers_step`, `answers_settled`: the answers that a step adds.
* `submitted_of_submission`, `not_breaks_worker`: a store answers every call.
* `outside_passing`, `outside_receive`, `outside_settled`: what leaves the state of the service
  alone, and cancels nothing.
-/

variable {σ : Type} {p : Pipeline σ}

/-! ### Workers that are with the service -/

/-- The only worker of a run is its first. -/
theorem Run.worker_of_singleton {s : Run σ} {w : Worker} (h : s.workers = [w]) :
    s.workers[0]? = some w := by
  rw [h]
  rfl

/-- Whether all workers that are with the service stay there. -/
def Run.KeepsCalling (s t : Run σ) : Prop :=
  ∀ (id : Nat) (items : List WriteItem),
    s.workers[id]? = some (.calling items) → t.workers[id]? = some (.calling items)

/-- If no worker turned to something else, those with the service are still there. -/
theorem Run.KeepsCalling.of_workers {s t : Run σ} (h : t.workers = s.workers) :
    s.KeepsCalling t := by
  intro id items hw
  rwa [h]

/-- A worker that is not with the service may do what it likes. -/
theorem keepsCalling_setWorker {s : Run σ} {id : Nat} {w : Worker}
    (hw : s.workers[id]? = some w) (hcalling : ∀ items, w ≠ .calling items) (w' : Worker) :
    s.KeepsCalling (s.setWorker id w') := by
  intro other items hother
  have hne : id ≠ other := by
    rintro rfl
    exact hcalling items (Option.some.inj (hw.symm.trans hother))
  show (s.workers.set id w')[other]? = _
  rwa [List.getElem?_set_ne hne]

/-- A worker that takes a batch, or leaves, keeps the others with the service. -/
theorem keepsCalling_receive {s : Run σ} {id : Nat} (hw : s.workers[id]? = some .idle) :
    s.KeepsCalling (p.receive s id) := by
  unfold receive
  cases s.queue with
  | nil => exact keepsCalling_setWorker hw nofun .gone
  | cons batch queue =>
    dsimp only
    split
    · exact .of_workers rfl
    · exact keepsCalling_setWorker hw nofun _

/-- A worker that wakes up keeps the others with the service. -/
theorem keepsCalling_wake {s : Run σ} {id due : Nat} {items : List WriteItem}
    (hw : s.workers[id]? = some (.waiting due items)) :
    s.KeepsCalling (if s.cancelled then p.abandon s id items else send s id items) := by
  split
  · exact keepsCalling_setWorker hw nofun .idle
  · exact keepsCalling_setWorker hw nofun _

/-- A worker that was answered goes on to something else. -/
theorem workers_settled (s : Run σ) (id : Nat) (r : Submission.Settlement) :
    ∃ w, (p.settled s id r).workers = s.workers.set id w ∧ ∀ items, w ≠ .calling items := by
  unfold settled
  dsimp only
  split
  · exact ⟨.idle, rfl, nofun⟩
  · exact ⟨_, rfl, nofun⟩

/-- A worker that is answered is with the service no more. -/
theorem getElem?_submitted {s t : Run σ} {id : Nat} {items : List WriteItem}
    {results : List SubmitResult} (hw : s.workers[id]? = some (.calling items))
    (hcall : p.submission s items = (.ok results, t)) :
    (p.submitted t id items (.ok results)).workers[id]? ≠ some (.calling items) := by
  obtain ⟨world, cancelled, rfl⟩ := eq_of_submission hcall
  obtain ⟨w, hworkers, hw'⟩ := workers_settled (p := p) { s with world, cancelled } id
    (Submission.settle p.entity.name p.options items results)
  have hid : id < s.workers.length := (List.getElem?_eq_some_iff.1 hw).1
  intro hstill
  have hset : (s.workers.set id w)[id]? = some (.calling items) := hworkers ▸ hstill
  rw [List.getElem?_set_self hid] at hset
  exact hw' items (Option.some.inj hset)

/-! ### Answers -/

namespace Run

/-- What the items that succeeded were answered, in order. -/
def answers (s : Run σ) : List (Nat × WriteResponse) :=
  s.outcomes.reverse.filterMap ItemOutcome.answer?

/-- Outcomes that are put out bring the answers of those that succeeded. -/
theorem answers_emit (s : Run σ) (outcomes : List ItemOutcome) :
    (s.emit outcomes).answers = s.answers ++ outcomes.filterMap ItemOutcome.answer? := by
  simp only [answers, emit, List.reverse_append, List.reverse_reverse, List.filterMap_append]

/-- Items that fail answer nothing. -/
@[simp] theorem answers_failItems (s : Run σ) (entity : String) (items : List WriteItem)
    (e : Failure) : (s.failItems entity items e).answers = s.answers := by
  have hnone : (items.map fun i => i.failed entity e false).filterMap ItemOutcome.answer? = [] := by
    simp [List.filterMap_map, Function.comp_def]
  rw [failItems, answers_emit, hnone, List.append_nil]

end Run

/-- Sending a batch brings no answers. -/
theorem answers_sendBatch (s : Run σ) (batch : List WriteItem) :
    (p.sendBatch s batch).answers = s.answers := by
  unfold sendBatch
  split
  · rfl
  · exact Run.answers_failItems s _ _ _

/-- The producer answers nothing. -/
theorem answers_passing {s t : Run σ} (h : p.Passing s t) : t.answers = s.answers := by
  cases h with
  | leave =>
    unfold leave
    split
    · rfl
    · split
      · exact Run.answers_failItems s _ _ _
      · rfl
  | ask => rfl
  | resume => rfl
  | fill =>
    unfold fill
    dsimp only
    split <;> rfl
  | send => exact answers_sendBatch s _
  | close => exact answers_sendBatch s _

/-- An input that could not be classified answers nothing. -/
theorem answers_classified (s : Run σ) (i : Input) {result : Answer (List WriteItem)} {last : Nat}
    (hresult : result ≠ .error .breach) :
    (p.classified s i (.ok (result, last))).answers = s.answers := by
  cases result with
  | ok items => rfl
  | error e =>
    cases e with
    | breach => exact absurd rfl hresult
    | error contexts root =>
      show Run.answers (Run.emit _ [p.inputFailed s.read (last + 1) i _]) = _
      rw [Run.answers_emit]
      exact List.append_nil _

/-- Taking a batch brings no answers. -/
theorem answers_receive (s : Run σ) (id : Nat) : (p.receive s id).answers = s.answers := by
  unfold receive
  cases s.queue with
  | nil => rfl
  | cons batch queue =>
    dsimp only
    split
    · exact Run.answers_failItems _ _ _ _
    · rfl

/-- The items that are settled answer what they were told. -/
theorem answers_settled (s : Run σ) (id : Nat) (r : Submission.Settlement) :
    (p.settled s id r).answers = s.answers ++ r.outcomes.filterMap ItemOutcome.answer? := by
  rw [← Run.answers_emit]
  unfold settled
  dsimp only
  split <;> rfl

/-- Items succeed only when a worker is answered. -/
theorem answers_step {s t : Run σ} {r : Option Reading} (hstep : p.Step s r t)
    (hcalling : s.KeepsCalling t) : t.answers = s.answers := by
  cases hstep with
  | pass => rfl
  | cancel => rfl
  | read hread hinputs hcall hresult =>
    obtain ⟨world, cancelled, rfl⟩ := eq_of_classification hcall
    exact answers_classified _ _ hresult
  | produce hdue hnone => exact answers_passing (passing_produce hdue hnone)
  | receive => exact answers_receive s _
  | answer hw hcall => exact absurd (hcalling _ _ hw) (getElem?_submitted hw hcall)
  | wake =>
    split
    · exact Run.answers_failItems _ _ _ _
    · rfl

/-! ### What is outside of a run -/

/-- The state of the service, and whether the run is cancelled. -/
def Run.outside (s : Run σ) : σ × Bool :=
  (s.world.state, s.cancelled)

/-- Sending a batch touches neither the service nor the cancellation. -/
theorem outside_sendBatch (s : Run σ) (batch : List WriteItem) :
    (p.sendBatch s batch).outside = s.outside := by
  unfold sendBatch
  split <;> rfl

/-- What the producer does by itself touches neither the service nor the cancellation. -/
theorem outside_passing {s t : Run σ} (h : p.Passing s t) : t.outside = s.outside := by
  cases h with
  | leave =>
    unfold leave
    split
    · rfl
    · split <;> rfl
  | ask => rfl
  | resume => rfl
  | fill =>
    unfold fill
    dsimp only
    split <;> rfl
  | send => exact outside_sendBatch s _
  | close => exact outside_sendBatch s _

/-- Taking a batch touches neither the service nor the cancellation. -/
theorem outside_receive (s : Run σ) (id : Nat) : (p.receive s id).outside = s.outside := by
  unfold receive
  cases s.queue with
  | nil => rfl
  | cons batch queue =>
    dsimp only
    split <;> rfl

/-- What becomes of an input that was classified touches neither the service nor the
cancellation. -/
theorem outside_classified (s : Run σ) (i : Input) {result : Answer (List WriteItem)} (last : Nat)
    (hresult : result ≠ .error .breach) :
    (p.classified s i (.ok (result, last))).outside = s.outside := by
  cases result with
  | ok items => rfl
  | error e =>
    cases e with
    | breach => exact absurd rfl hresult
    | error => rfl

/-- Settling the answer to a batch touches neither the service nor the cancellation. -/
theorem outside_settled (s : Run σ) (id : Nat) (r : Submission.Settlement) :
    (p.settled s id r).outside = s.outside := by
  unfold settled
  dsimp only
  split <;> rfl

/-- A worker that wakes up touches neither the service nor the cancellation. -/
theorem outside_wake (s : Run σ) (id : Nat) (items : List WriteItem) :
    (if s.cancelled then p.abandon s id items else send s id items).outside = s.outside := by
  split <;> rfl

/-- A run that was cancelled stays so. -/
theorem cancelled_step {s t : Run σ} {r : Option Reading} (hstep : p.Step s r t)
    (h : t.cancelled = false) : s.cancelled = false := by
  have hcall : ∀ {α : Type} {c : Call σ α} {s t : Run σ} {r : Answer α}, p.call s c = (r, t) →
      t.cancelled = false → s.cancelled = false := by
    intro α c s t r hcall ht
    have hor : (p.call s c).2.cancelled = false := by rwa [hcall]
    exact (Bool.or_eq_false_iff.1 hor).1
  cases hstep with
  | pass => exact h
  | cancel => exact nomatch h
  | @read u i rest result last hread hinputs hclassification hresult =>
    have houtside := congrArg Prod.snd (outside_classified (p := p) u i last hresult)
    exact hcall (s := { s with inputs := rest }) hclassification (houtside.symm.trans h)
  | produce hdue hnone =>
    exact (congrArg Prod.snd (outside_passing (passing_produce hdue hnone))).symm.trans h
  | receive => exact (congrArg Prod.snd (outside_receive s _)).symm.trans h
  | @answer u id items results hw hsubmission =>
    have houtside := congrArg Prod.snd (outside_settled (p := p) u id
      (Submission.settle p.entity.name p.options items results))
    exact hcall hsubmission (houtside.symm.trans h)
  | wake => exact (congrArg Prod.snd (outside_wake s _ _)).symm.trans h

/-! ### Calls of a store -/

/-- What a store answers to the items of a worker. -/
theorem submitted_of_submission {p : Pipeline Store} (hservice : p.service = Store.service)
    {s t : Run Store} {items : List WriteItem} {results : List SubmitResult}
    (hcall : p.submission s items = (.ok results, t)) :
    Submission.Submitted p.options s.world.state (items.map (·.request)) results
      t.world.state := by
  obtain ⟨results', w', hrun, hsubmitted⟩ :=
    Submission.submitted_submit p.options s.world (items.map (·.request))
  rw [← hservice] at hrun
  have hsame : (Except.ok results', w') = ((Except.ok results : Answer _), t.world) :=
    hrun.symm.trans (Prod.ext (congrArg (·.1) hcall) (congrArg (·.2.world) hcall))
  cases hsame
  exact hsubmitted

/-- A store answers every call, so that no worker breaks off. -/
theorem not_breaks_worker {p : Pipeline Store} (hservice : p.service = Store.service)
    (s : Run Store) (id : Nat) : ¬p.Breaks s (.worker id) := by
  rintro ⟨items, -, e, he⟩
  obtain ⟨results, w', hrun, -⟩ :=
    Submission.submitted_submit p.options s.world (items.map (·.request))
  rw [← hservice] at hrun
  exact nomatch (congrArg (·.1) hrun).symm.trans he

end RecordService.Pipeline
