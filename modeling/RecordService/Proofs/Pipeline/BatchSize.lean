import RecordService.Proofs.Pipeline.Classification
import RecordService.Proofs.Pipeline.Effects
import RecordService.Proofs.Store.Outcomes

namespace RecordService.Pipeline

/-!
# The size of batches makes no difference

A single worker sends the items in the order of the inputs. If a store answers it without pending
faults, and the run is not cancelled, then it is settled at every moment what will be in the store
in the end and which outcomes there will be. No step changes that, and how many requests are sent
together plays no part in it.

* `Pipeline.foresee`: what inputs will be classified to.
* `Pipeline.forecast`: the tables and the outcomes at the end.
* `Serial`, `forecast_step`: every step keeps the forecast.
* `batchSize_unobservable`: two runs with batches of different sizes end alike.
* `end_of_run`: the scheduled run ends so, too.
-/

/-! ### What is to come -/

/-- The same pipeline when another number of requests is sent together. -/
def batched {σ : Type} (p : Pipeline σ) (size : Nat) : Pipeline σ :=
  { p with options := { p.options with batchSize := size } }

/-- The items of inputs to be read, and the outcomes of those that cannot be classified. -/
def foresee {σ : Type} (p : Pipeline σ) :
    Nat → Nat → List Input → List WriteItem × List ItemOutcome
  | _, _, [] => ([], [])
  | index, last, i :: rest =>
    match p.classifier.planned index i last with
    | (.ok items, last) =>
      let later := foresee p (index + 1) last rest
      (items ++ later.1, later.2)
    | (.error e, last) =>
      let later := foresee p (index + 1) (last + 1) rest
      (later.1, p.inputFailed index (last + 1) i e :: later.2)

/-- The size of batches does not show in what is foreseen of inputs. -/
theorem foresee_batched {σ : Type} (p : Pipeline σ) (size index last : Nat)
    (inputs : List Input) :
    (p.batched size).foresee index last inputs = p.foresee index last inputs := by
  induction inputs generalizing index last with
  | nil => rfl
  | cons i rest ih =>
    have hplanned : (p.batched size).classifier.planned index i last =
        p.classifier.planned index i last := p.classifier.planned_batched size index i last
    unfold foresee
    rw [hplanned]
    simp only [ih]
    rfl

/-- The tables and the outcomes that a run comes to, if what is pending and what is to be read is
sent in order. -/
def forecast (p : Pipeline Store) (s : Run Store) : Tables × Multiset ItemOutcome :=
  let ahead := p.foresee s.read s.lastToken s.inputs
  let items := s.pending ++ ahead.1.map WriteItem.sent
  ((s.world.state.receiveAll (items.map (·.request))).2.tables,
    s.outcomes + ahead.2 + s.world.state.outcomes p.entity.name p.options items)

variable {p : Pipeline Store}

/-! ### Runs with one worker -/

/-- What is kept by the runs that are forecast. -/
structure Serial (s : Run Store) : Prop where
  tidy : s.Tidy
  worker : ∃ w, s.workers = [w]
  calm : s.world.state.Calm
  /-- A producer that reads no more has read everything. -/
  drained : s.producer.work ≤ 1 → s.inputs = []

/-- The only worker, by its number. -/
theorem eq_of_getElem?_singleton {w w' : Worker} {id : Nat} (h : [w][id]? = some w') :
    id = 0 ∧ w = w' := by
  cases id with
  | zero => exact ⟨rfl, Option.some.inj h⟩
  | succ id => exact nomatch h

/-- A run with one worker has no other one under any number. -/
theorem Serial.workers_of {s : Run Store} (h : Serial s) {id : Nat} {w : Worker}
    (hw : s.workers[id]? = some w) : id = 0 ∧ s.workers = [w] := by
  obtain ⟨w', hworkers⟩ := h.worker
  rw [hworkers] at hw
  obtain ⟨hid, rfl⟩ := eq_of_getElem?_singleton hw
  exact ⟨hid, hworkers⟩

/-- With one worker, what is pending is what it has, and then what no worker has. -/
theorem pending_of_workers {s : Run Store} {w : Worker} (h : s.workers = [w]) :
    s.pending = w.pending ++ s.queued.map WriteItem.sent := by
  rw [Run.pending, h, List.flatMap_singleton]

/-- What is pending when the one worker turns to something else. -/
theorem pending_setWorker {s : Run Store} {w : Worker} (h : s.workers = [w]) (w' : Worker) :
    (s.setWorker 0 w').pending = w'.pending ++ s.queued.map WriteItem.sent := by
  refine pending_of_workers (s := s.setWorker 0 w') ?_
  rw [Run.setWorker, h]
  rfl

/-- The one worker stays the only one when it turns to something else. -/
theorem worker_setWorker {s : Run Store} {w : Worker} (h : s.workers = [w]) (w' : Worker) :
    ∃ w, (s.setWorker 0 w').workers = [w] := by
  refine ⟨w', ?_⟩
  rw [Run.setWorker, h]
  rfl

/-- A worker that takes a batch takes the next items. -/
theorem pending_receive {s : Run Store} (h : Serial s) {id : Nat}
    (hw : s.workers[id]? = some .idle) (hcancelled : s.cancelled = false) :
    (p.receive s id).pending = s.pending ∧ (p.receive s id).outcomes = s.outcomes ∧
      ∃ w, (p.receive s id).workers = [w] := by
  obtain ⟨rfl, hworkers⟩ := h.workers_of hw
  rw [pending_of_workers hworkers]
  unfold receive
  cases hqueue : s.queue with
  | nil => exact ⟨pending_setWorker hworkers .gone, rfl, worker_setWorker hworkers .gone⟩
  | cons batch queue =>
    dsimp only
    rw [hcancelled]
    refine ⟨?_, rfl, worker_setWorker hworkers _⟩
    have htaken : s.queued = batch ++ ({ s with queue } : Run Store).queued := by
      rw [Run.queued, hqueue, List.flatten_cons, List.append_assoc]
      rfl
    rw [htaken, List.map_append]
    exact pending_setWorker (s := { s with queue }) hworkers _

/-- A worker that has waited sends the items that it waited for. -/
theorem pending_wake {s : Run Store} (h : Serial s) {id due : Nat} {items : List WriteItem}
    (hw : s.workers[id]? = some (.waiting due items)) :
    (send s id items).pending = s.pending ∧ ∃ w, (send s id items).workers = [w] := by
  obtain ⟨rfl, hworkers⟩ := h.workers_of hw
  rw [pending_of_workers hworkers]
  exact ⟨pending_setWorker hworkers _, worker_setWorker hworkers _⟩

/-! ### Steps -/

/-- A run that agrees with another one in all that the forecast depends on. -/
theorem forecast_congr {s t : Run Store} (hstate : t.world.state = s.world.state)
    (hextent : (t.inputs, t.read, t.lastToken) = (s.inputs, s.read, s.lastToken))
    (hpending : t.pending = s.pending) (houtcomes : t.outcomes = s.outcomes) :
    p.forecast t = p.forecast s := by
  simp only [Prod.mk.injEq] at hextent
  obtain ⟨hinputs, hread, hlast⟩ := hextent
  simp only [forecast, hstate, hinputs, hread, hlast, hpending, houtcomes]

/-- The only worker is there as long as the producer is. -/
theorem Serial.hasWorkers {s : Run Store} (h : Serial s) (hproducer : s.producer ≠ .finished) :
    s.hasWorkers = true := by
  obtain ⟨w, hworkers⟩ := h.worker
  have hgone := h.tidy.gone_notMem hproducer
  unfold Run.hasWorkers
  rw [hworkers] at hgone ⊢
  cases w with
  | gone => exact absurd List.mem_cons_self hgone
  | _ => rfl

/-- What the producer does when it reads no input leaves what is pending as it is. -/
theorem pending_passing {s t : Run Store} (h : Serial s) (hpassing : p.Passing s t)
    (hcancelled : s.cancelled = false) : t.pending = s.pending ∧ t.outcomes = s.outcomes := by
  have hthere : s.producer ≠ .finished := by
    intro hfinished
    cases hpassing <;> simp_all
  rcases queued_passing hpassing h.tidy with ⟨hqueued, houtcomes⟩ | ⟨hgives, -⟩
  · refine ⟨?_, houtcomes⟩
    rw [Run.pending, Run.pending, workers_passing hpassing, hqueued]
  · rcases hgives with hyes | hnone
    · cases hyes.symm.trans hcancelled
    · cases hnone.symm.trans (h.hasWorkers hthere)

/-- The producer stops reading only when there is nothing to read. -/
theorem drained_produce {σ : Type} {p : Pipeline σ} {s : Run σ}
    (h : s.producer.work ≤ 1 → s.inputs = []) (hcancelled : s.cancelled = false)
    (hnone : p.upcoming? s = none) :
    (p.produce s).producer.work ≤ 1 → (p.produce s).inputs = [] := by
  have hleave : s.inputs = [] → (p.leave s).inputs = [] := by
    intro hnil
    exact (leave_same p s).1.2.trans hnil
  -- with inputs left the producer would take one, asks for one or has items at hand
  unfold produce
  unfold upcoming? at hnone
  cases hproducer : s.producer with
  | reading =>
    cases hinputs : s.inputs with
    | nil => exact fun _ => hleave hinputs
    | cons i rest =>
      rw [hproducer, hinputs, hcancelled] at hnone
      dsimp only at hnone ⊢
      by_cases hgap : p.gap = 0
      · simp [hgap] at hnone
      · rw [hcancelled, if_neg (by decide), if_neg hgap]
        exact fun hle => absurd hle (show ¬2 ≤ 1 by decide)
  | awaiting due =>
    cases hinputs : s.inputs with
    | nil => exact fun _ => hleave hinputs
    | cons i rest =>
      rw [hproducer, hinputs, hcancelled] at hnone
      exact nomatch hnone
  | filling items =>
    cases items with
    | nil => exact fun hle => absurd hle (show ¬3 ≤ 1 by decide)
    | cons i rest =>
      dsimp only
      unfold fill
      dsimp only
      split
      · exact fun hle => by simp only [Producer.work] at hle; omega
      · exact fun hle => by simp only [Producer.work] at hle; omega
  | sending batch rest =>
    exact fun hle => by simp only [Run.setProducer, Producer.work] at hle; omega
  | closing batch =>
    intro _
    have hnil : s.inputs = [] := h (by rw [hproducer]; exact Nat.le_refl 1)
    exact (sendBatch_same p s batch).2.trans hnil
  | finished => exact h

/-- Without matching the classification leaves the world as it is. -/
theorem classification_of_matchOn_nil (hmatch : p.options.matchOn = []) (s : Run Store) (i : Input)
    (rest : List Input) :
    p.classification s i rest =
      (.ok (p.classifier.planned s.read i s.lastToken),
        { s with inputs := rest, cancelled := s.cancelled || p.cancels s.world.state }) := by
  unfold classification call
  rw [Classifier.items_of_matchOn_nil hmatch]

/-- An input that is read is classified as it was foreseen. -/
theorem forecast_read (hmatch : p.options.matchOn = []) {s t : Run Store} {r : Reading}
    (hstep : p.Step s (some r) t) :
    p.forecast t = p.forecast s ∧ t.world.state = s.world.state := by
  obtain ⟨hqueued, hworkers⟩ := queued_read hstep
  have hpending : t.pending = s.pending ++ r.items.map WriteItem.sent := by
    rw [Run.pending, hqueued, hworkers, List.map_append, ← List.append_assoc]
    rfl
  cases hstep with
  | @read u i rest result last hread hinputs hcall hresult =>
    rw [classification_of_matchOn_nil hmatch] at hcall
    have hplanned : p.classifier.planned s.read i s.lastToken = (result, last) :=
      Except.ok.inj (congrArg Prod.fst hcall)
    obtain rfl := congrArg Prod.snd hcall
    cases result with
    | ok items =>
      have hahead : p.foresee s.read s.lastToken s.inputs =
          (items ++ (p.foresee (s.read + 1) last rest).1,
            (p.foresee (s.read + 1) last rest).2) := by
        rw [hinputs, foresee, hplanned]
      refine ⟨?_, rfl⟩
      simp only [forecast, hpending, hahead, List.map_append, List.append_assoc]
      rfl
    | error e =>
      cases e with
      | breach => exact absurd rfl hresult
      | error contexts root =>
        have hahead : p.foresee s.read s.lastToken s.inputs =
            ((p.foresee (s.read + 1) (last + 1) rest).1,
              p.inputFailed s.read (last + 1) i (.error contexts root) ::
                (p.foresee (s.read + 1) (last + 1) rest).2) := by
          rw [hinputs, foresee, hplanned]
        -- the failure is put out now instead of later
        have hput : ∀ (o : ItemOutcome) (os later : List ItemOutcome),
            ((o :: os : List ItemOutcome) : Multiset ItemOutcome) + (later : Multiset ItemOutcome) =
              os + ((o :: later : List ItemOutcome) : Multiset ItemOutcome) := by
          intro o os later
          rw [← Multiset.cons_coe, ← Multiset.cons_coe, Multiset.cons_add, Multiset.add_cons]
        refine ⟨?_, rfl⟩
        simp only [forecast, hpending, hahead, ← hput]
        rw [Reading.items, List.map_nil, List.append_nil]
        rfl

/-- A worker that has nothing to send again is done with its items. -/
theorem settled_of_retry_nil (s : Run Store) (id : Nat) {r : Submission.Settlement}
    (h : r.retry = []) :
    p.settled s id r = ((s.emit r.outcomes).notes r.journal).setWorker id .idle := by
  unfold settled
  rw [h]

/-- The items that arrive first end first, and those that are left end as before. -/
theorem forecast_settled {s : Run Store} {items : List WriteItem} {world : World Store}
    {cancelled : Bool} {journal : List JournalLine} {f : CallCounts → CallCounts}
    (hworkers : s.workers = [.calling items])
    (hstate : world.state = (s.world.state.receiveAll (items.map (·.request))).2.count f) :
    p.forecast (((({ s with world, cancelled } : Run Store).emit
        (s.world.state.outcomes p.entity.name p.options items)).notes journal).setWorker 0 .idle) =
      p.forecast s := by
  let t : Run Store := (({ s with world, cancelled } : Run Store).emit
    (s.world.state.outcomes p.entity.name p.options items)).notes journal
  have hpending : s.pending = items ++ s.queued.map WriteItem.sent := pending_of_workers hworkers
  have hrest : (t.setWorker 0 .idle).pending = s.queued.map WriteItem.sent :=
    pending_setWorker (s := t) hworkers .idle
  have hworld : (t.setWorker 0 .idle).world.state =
      (s.world.state.receiveAll (items.map (·.request))).2.count f := hstate
  have hahead : p.foresee (t.setWorker 0 .idle).read (t.setWorker 0 .idle).lastToken
      (t.setWorker 0 .idle).inputs = p.foresee s.read s.lastToken s.inputs := rfl
  have houtcomes : (t.setWorker 0 .idle).outcomes =
      (s.world.state.outcomes p.entity.name p.options items).reverse ++ s.outcomes := rfl
  show p.forecast (t.setWorker 0 .idle) = _
  simp only [forecast, hpending, hrest, hworld, hahead, houtcomes, List.append_assoc,
    List.map_append, Store.receiveAll_append, Store.outcomes_append, Store.receiveAll_count,
    Store.outcomes_count, Store.tables_count, ← Multiset.coe_add, Multiset.coe_reverse]
  refine Prod.ext rfl ?_
  dsimp only
  abel

/-- The items of a worker that is answered end as it was forecast. -/
theorem forecast_answer (hservice : p.service = Store.service) (ho : p.options.Decisive)
    {s u : Run Store} (h : Serial s) {id : Nat} {items : List WriteItem}
    {results : List SubmitResult} (hw : s.workers[id]? = some (.calling items))
    (hcall : p.submission s items = (.ok results, u)) :
    p.forecast (p.submitted u id items (.ok results)) = p.forecast s ∧
      (p.submitted u id items (.ok results)).world.state.Calm ∧
      ∃ w, (p.submitted u id items (.ok results)).workers = [w] := by
  have hsubmitted := submitted_of_submission hservice hcall
  obtain ⟨world, cancelled, rfl⟩ := eq_of_submission hcall
  obtain ⟨rfl, hworkers⟩ := h.workers_of hw
  generalize hstate : world.state = state at hsubmitted
  cases hsubmitted with
  | due f hfault => exact nomatch h.calm.callFault.symm.trans hfault
  | done f hfault htold =>
    obtain ⟨houtcomes, hretry⟩ := Submission.settle_told p.entity.name ho h.calm htold
    have hsettled : p.submitted { s with world, cancelled } 0 items (.ok results) = _ :=
      settled_of_retry_nil _ 0 hretry
    rw [hsettled, houtcomes]
    refine ⟨?_, ?_, worker_setWorker hworkers .idle⟩
    · exact forecast_settled hworkers hstate
    · show world.state.Calm
      rw [hstate]
      exact (h.calm.receiveAll _).count f

/-- A worker that takes a batch leaves the producer alone. -/
theorem producer_receive (s : Run Store) (id : Nat) : (p.receive s id).producer = s.producer := by
  unfold receive
  cases s.queue with
  | nil => rfl
  | cons batch queue =>
    dsimp only
    split <;> rfl

/-- A producer that has read an input goes on. -/
theorem work_classified {σ : Type} {p : Pipeline σ} (s : Run σ) (i : Input)
    {result : Answer (List WriteItem)} {last : Nat} (hresult : result ≠ .error .breach) :
    1 < (p.classified s i (.ok (result, last))).producer.work := by
  cases result with
  | ok items =>
    show 1 < 4 + 2 * items.length
    omega
  | error e =>
    cases e with
    | breach => exact absurd rfl hresult
    | error => exact (by decide : 1 < 3)

/-- **The forecast.** No step changes what a run comes to. -/
theorem forecast_step (hservice : p.service = Store.service) (hmatch : p.options.matchOn = [])
    (ho : p.options.Decisive) {s t : Run Store} {r : Option Reading} (h : Serial s)
    (hstep : p.Step s r t) (hcancelled : t.cancelled = false) :
    Serial t ∧ p.forecast t = p.forecast s := by
  have hbefore := cancelled_step hstep hcancelled
  have htidy := tidy_step h.tidy hstep
  cases r with
  | some r =>
    obtain ⟨hforecast, hstate⟩ := forecast_read hmatch hstep
    obtain ⟨-, hworkers⟩ := queued_read hstep
    refine ⟨⟨htidy, hworkers ▸ h.worker, hstate ▸ h.calm, ?_⟩, hforecast⟩
    cases hstep with
    | @read u i rest result last hread hinputs hcall hresult =>
      exact fun hle => absurd (work_classified (p := p) u i hresult) (Nat.not_lt.2 hle)
  | none =>
    -- no input is read, so what is foreseen of the inputs stays, and what is pending counts
    have hextent := extent_step hstep
    simp only [Run.extent, Prod.mk.injEq] at hextent
    obtain ⟨hinputs, hread, hlast, -⟩ := hextent
    have hagree : (t.inputs, t.read, t.lastToken) = (s.inputs, s.read, s.lastToken) := by
      rw [hinputs, hread, hlast]
    have hdrained : t.producer = s.producer → t.producer.work ≤ 1 → t.inputs = [] :=
      fun hproducer hle => hinputs.trans (h.drained (hproducer ▸ hle))
    cases hstep with
    | pass time => exact ⟨⟨htidy, h.worker, h.calm, h.drained⟩, forecast_congr rfl rfl rfl rfl⟩
    | cancel => cases hcancelled
    | produce hdue hnone =>
      have hpassing := passing_produce hdue hnone
      have hstate : (p.produce s).world.state = s.world.state :=
        congrArg Prod.fst (outside_passing hpassing)
      obtain ⟨hpending, houtcomes⟩ := pending_passing h hpassing hbefore
      exact ⟨⟨htidy, workers_passing hpassing ▸ h.worker, hstate ▸ h.calm,
        drained_produce h.drained hbefore hnone⟩,
        forecast_congr hstate hagree hpending houtcomes⟩
    | @receive id hw hdue =>
      have hstate : (p.receive s id).world.state = s.world.state :=
        congrArg Prod.fst (outside_receive s id)
      obtain ⟨hpending, houtcomes, hworker⟩ := pending_receive h hw hbefore
      exact ⟨⟨htidy, hworker, hstate ▸ h.calm, hdrained (producer_receive s id)⟩,
        forecast_congr hstate hagree hpending houtcomes⟩
    | @answer u id items results hw hcall =>
      obtain ⟨hforecast, hcalm, hworker⟩ := forecast_answer hservice ho h hw hcall
      have hproducer : (p.submitted u id items (.ok results)).producer = s.producer := by
        obtain ⟨world, cancelled, rfl⟩ := eq_of_submission hcall
        exact (submitted_same p _ id items _).2.1
      exact ⟨⟨htidy, hworker, hcalm, hdrained hproducer⟩, hforecast⟩
    | @wake id due items hw =>
      obtain ⟨hpending, hworker⟩ := pending_wake h hw
      rw [hbefore] at htidy hagree ⊢
      exact ⟨⟨htidy, hworker, h.calm, h.drained⟩, forecast_congr rfl hagree hpending rfl⟩

/-- **The forecast comes true.** A run that is over and was not cancelled has come to what was
forecast at its start. -/
theorem forecast_of_interleaving (hservice : p.service = Store.service)
    (hmatch : p.options.matchOn = []) (ho : p.options.Decisive) {s t : Run Store}
    {readings : List Reading} (h : Serial s) (hrun : p.Interleaving s readings t)
    (hcancelled : t.cancelled = false) : Serial t ∧ p.forecast t = p.forecast s := by
  induction hrun with
  | start => exact ⟨h, rfl⟩
  | next _ hstep ih =>
    obtain ⟨hserial, hforecast⟩ := ih (cancelled_step hstep hcancelled)
    obtain ⟨hserial', hforecast'⟩ := forecast_step hservice hmatch ho hserial hstep hcancelled
    exact ⟨hserial', hforecast'.trans hforecast⟩

/-- A run that is over has come to what was forecast: nothing is pending and nothing is to be
read. -/
theorem forecast_of_isOver {s : Run Store} (h : Serial s) (hover : s.isOver = true) :
    p.forecast s = (s.world.state.tables, (s.outcomes : Multiset ItemOutcome)) := by
  have hover' : s.isClosed = true ∧ s.hasWorkers = false := by simpa [Run.isOver] using hover
  have hproducer : s.producer = .finished := isClosed_eq_true.1 hover'.1
  have hinputs : s.inputs = [] := h.drained (by rw [hproducer]; exact Nat.zero_le 1)
  obtain ⟨w, hworkers⟩ := h.worker
  -- the worker has gone, and has left an empty queue behind
  have hgone : w = .gone := by
    have hnone := hover'.2
    unfold Run.hasWorkers at hnone
    rw [hworkers] at hnone
    cases w with
    | gone => rfl
    | _ => cases hnone
  have hqueue : s.queue = [] := (h.tidy.gone (by rw [hworkers, hgone]; exact List.mem_cons_self)).2
  have hpending : s.pending = [] := by
    rw [pending_of_workers hworkers, hgone, Run.queued, hqueue, hproducer,
      h.tidy.finished hproducer]
    rfl
  simp only [forecast, hinputs, hpending, foresee]
  refine Prod.ext rfl ?_
  show (s.outcomes : Multiset ItemOutcome) + 0 + 0 = s.outcomes
  rw [add_zero, add_zero]

/-- A run that is to have one worker starts with one. -/
theorem serial_start (hparallelism : p.options.parallelism = 1) {w : World Store}
    (hcalm : w.state.Calm) (inputs : List Input) : Serial (p.start w inputs) where
  tidy := (conserved_start (p := p) w none inputs).tidy
  worker := by
    refine ⟨.idle, ?_⟩
    show List.replicate p.options.parallelism Worker.idle = _
    rw [hparallelism]
    rfl
  calm := hcalm
  drained := fun hle => absurd hle (show ¬3 ≤ 1 by decide)

/-- What is forecast does not hang on the size of the batches. -/
theorem forecast_batched (p : Pipeline Store) (size : Nat) (s : Run Store) :
    (p.batched size).forecast s = p.forecast s := by
  unfold forecast
  rw [foresee_batched]
  rfl

/-- Whatever the size of the batches, a run of a single worker ends as it was forecast. -/
theorem end_of_interleaving (hservice : p.service = Store.service)
    (hmatch : p.options.matchOn = []) (hparallelism : p.options.parallelism = 1)
    (ho : p.options.Decisive) {w : World Store} (hcalm : w.state.Calm) {inputs : List Input}
    {size : Nat} {readings : List Reading} {s : Run Store}
    (hrun : (p.batched size).Interleaving ((p.batched size).start w inputs) readings s)
    (hover : s.isOver = true) (hcancelled : s.cancelled = false) :
    (s.world.state.tables, (s.outcomes : Multiset ItemOutcome)) =
      p.forecast (p.start w inputs) := by
  have hstart : Serial ((p.batched size).start w inputs) :=
    serial_start (p := p.batched size) hparallelism hcalm inputs
  obtain ⟨hserial, hforecast⟩ :=
    forecast_of_interleaving (p := p.batched size) hservice hmatch ho hstart hrun hcancelled
  rw [← forecast_of_isOver (p := p.batched size) hserial hover, hforecast]
  exact forecast_batched p size (p.start w inputs)

/-- **The batch size is not observable.** Two runs of a single worker into a store without pending
faults, with batches of different sizes, leave the same tables and the same outcomes. Nothing is
matched, nothing that the store refuses is sent again, and neither run is cancelled. -/
theorem batchSize_unobservable {p : Pipeline Store} (hservice : p.service = Store.service)
    (hmatch : p.options.matchOn = []) (hparallelism : p.options.parallelism = 1)
    (ho : p.options.Decisive) {w : World Store} (hcalm : w.state.Calm) {inputs : List Input}
    {size₁ size₂ : Nat} {readings₁ readings₂ : List Reading} {s₁ s₂ : Run Store}
    (hrun₁ : (p.batched size₁).Interleaving ((p.batched size₁).start w inputs) readings₁ s₁)
    (hover₁ : s₁.isOver = true) (hcancelled₁ : s₁.cancelled = false)
    (hrun₂ : (p.batched size₂).Interleaving ((p.batched size₂).start w inputs) readings₂ s₂)
    (hover₂ : s₂.isOver = true) (hcancelled₂ : s₂.cancelled = false) :
    s₁.world.state.tables = s₂.world.state.tables ∧ s₁.outcomes.Perm s₂.outcomes := by
  have hend₁ := end_of_interleaving hservice hmatch hparallelism ho hcalm hrun₁ hover₁ hcancelled₁
  have hend₂ := end_of_interleaving hservice hmatch hparallelism ho hcalm hrun₂ hover₂ hcancelled₂
  have hsame := hend₁.trans hend₂.symm
  exact ⟨congrArg Prod.fst hsame, Multiset.coe_eq_coe.1 (congrArg Prod.snd hsame)⟩

/-- A pipeline of one worker into a store. -/
def singleWorker : Pipeline Store where
  service := Store.service
  entity := .ofName "note"
  options := WriteOptions.standard
  gap := 0
  cancels := fun _ => false

/-- Two notes are sent one after the other in one run, and together in the other. -/
theorem batchSize_unobservable_notes :
    ∃ readings₁ readings₂ s₁ s₂,
      (singleWorker.batched 1).Interleaving
        ((singleWorker.batched 1).start ⟨Store.ofEntities [.ofName "note"], []⟩
          [⟨.ofList []⟩, ⟨.ofList []⟩]) readings₁ s₁ ∧
      (singleWorker.batched 2).Interleaving
        ((singleWorker.batched 2).start ⟨Store.ofEntities [.ofName "note"], []⟩
          [⟨.ofList []⟩, ⟨.ofList []⟩]) readings₂ s₂ ∧
      s₁.world.state.calls.singles = 2 ∧ s₂.world.state.calls.batches = 1 ∧
      s₁.world.state.tables = s₂.world.state.tables ∧ s₁.outcomes.Perm s₂.outcomes := by
  -- every item goes its way before the next input is read
  have a₀ : (singleWorker.batched 1).Interleaving
      ((singleWorker.batched 1).start ⟨Store.ofEntities [.ofName "note"], []⟩
        [⟨.ofList []⟩, ⟨.ofList []⟩]) [] _ := .start
  have a₁ := a₀.next (.read (.inl ⟨rfl, rfl⟩) rfl rfl nofun)
  have a₂ := a₁.next (.produce rfl rfl)
  have a₃ := a₂.next (.produce rfl rfl)
  have a₄ := a₃.next (.receive (Run.worker_of_singleton rfl) rfl)
  have a₅ := a₄.next (.answer (Run.worker_of_singleton rfl) rfl)
  have a₆ := a₅.next (.produce rfl rfl)
  have a₇ := a₆.next (.read (.inl ⟨rfl, rfl⟩) rfl rfl nofun)
  have a₈ := a₇.next (.produce rfl rfl)
  have a₉ := a₈.next (.produce rfl rfl)
  have a₁₀ := a₉.next (.receive (Run.worker_of_singleton rfl) rfl)
  have a₁₁ := a₁₀.next (.answer (Run.worker_of_singleton rfl) rfl)
  have a₁₂ := a₁₁.next (.produce rfl rfl)
  have a₁₃ := a₁₂.next (.produce rfl rfl)
  have a := a₁₃.next (.receive (Run.worker_of_singleton rfl) rfl)
  -- both items wait for each other
  have b₀ : (singleWorker.batched 2).Interleaving
      ((singleWorker.batched 2).start ⟨Store.ofEntities [.ofName "note"], []⟩
        [⟨.ofList []⟩, ⟨.ofList []⟩]) [] _ := .start
  have b₁ := b₀.next (.read (.inl ⟨rfl, rfl⟩) rfl rfl nofun)
  have b₂ := b₁.next (.produce rfl rfl)
  have b₃ := b₂.next (.produce rfl rfl)
  have b₄ := b₃.next (.read (.inl ⟨rfl, rfl⟩) rfl rfl nofun)
  have b₅ := b₄.next (.produce rfl rfl)
  have b₆ := b₅.next (.produce rfl rfl)
  have b₇ := b₆.next (.receive (Run.worker_of_singleton rfl) rfl)
  have b₈ := b₇.next (.answer (Run.worker_of_singleton rfl) rfl)
  have b₉ := b₈.next (.produce rfl rfl)
  have b₁₀ := b₉.next (.produce rfl rfl)
  have b := b₁₀.next (.receive (Run.worker_of_singleton rfl) rfl)
  obtain ⟨htables, houtcomes⟩ := batchSize_unobservable (p := singleWorker) rfl rfl rfl
    (WriteOptions.decisive_of_transientCodes rfl) ⟨rfl, rfl⟩ a rfl rfl b rfl rfl
  exact ⟨_, _, _, _, a, b, rfl, rfl, htables, houtcomes⟩

/-! ### The schedule -/

/-- Without matching, no task of a run into a store breaks off. -/
theorem not_breaks_of_matchOn_nil (hservice : p.service = Store.service)
    (hmatch : p.options.matchOn = []) (s : Run Store) (a : Actor) : ¬p.Breaks s a := by
  cases a with
  | canceller => exact fun h => h
  | worker id => exact not_breaks_worker hservice s id
  | producer =>
    rintro ⟨i, rest, -, hbreach⟩
    rw [classification_of_matchOn_nil hmatch] at hbreach
    exact p.classifier.sound_planned s.read i s.lastToken (hbreach _ _ rfl)

/-- A scheduled run of a single worker ends as it was forecast, unless it is cancelled. -/
theorem end_of_run (hservice : p.service = Store.service) (hmatch : p.options.matchOn = [])
    (hparallelism : p.options.parallelism = 1) (ho : p.options.Decisive) {w : World Store}
    (hcalm : w.state.Calm) (inputs : List Input) (size : Nat)
    (hcancelled : ((p.batched size).run ((p.batched size).start w inputs)).cancelled = false) :
    (((p.batched size).run ((p.batched size).start w inputs)).world.state.tables,
      (((p.batched size).run ((p.batched size).start w inputs)).outcomes :
        Multiset ItemOutcome)) = p.forecast (p.start w inputs) := by
  obtain ⟨readings, hrun⟩ := interleaving_run (p := p.batched size)
    (s := (p.batched size).start w inputs)
    fun _ t _ a => not_breaks_of_matchOn_nil (p := p.batched size) hservice hmatch t a
  have hworkers : 0 < (p.batched size).options.parallelism := by
    show 0 < p.options.parallelism
    rw [hparallelism]
    exact Nat.one_pos
  exact end_of_interleaving hservice hmatch hparallelism ho hcalm hrun (isOver_run hworkers _)
    hcancelled

end RecordService.Pipeline
