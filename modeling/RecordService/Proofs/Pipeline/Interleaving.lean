import RecordService.Write.Schedule

namespace RecordService.Pipeline

/-!
# Interleavings of a run

The schedule of a run lets the actor act that can act earliest. Nothing that is shown of runs
should hang on that choice, on how long the service takes, or on when the run is cancelled. Here
the actors act in any order: a step is taken by whoever can act, a call is answered at any time
after it was sent, and a run may be cancelled between any two steps.

* `Reading`: what an input that was read came to.
* `Step`: a step of one of the actors, none of which breaks off.
* `Interleaving`: the runs in any order of steps, with the inputs that were read.
* `Working`: the steps of one worker.
* `Passing`, `passing_produce`: what the producer does when it reads no input.
* `step_of_due`, `interleaving_run`: the scheduled run is one of them.
-/

variable {σ : Type}

/-! ### Steps -/

/-- What an input that was read came to. -/
structure Reading where
  /-- The place of the input, counted from zero. -/
  index : Nat
  input : Input
  /-- The items that it was classified to, or why it could not be. -/
  result : Answer (List WriteItem)
  /-- The last token that was given by then. -/
  last : Nat

/-- What the next input is classified to, and the run after the classification. -/
def classification (p : Pipeline σ) (s : Run σ) (i : Input) (rest : List Input) :
    Answer (Answer (List WriteItem) × Nat) × Run σ :=
  p.call { s with inputs := rest } (p.classifier.items p.service s.read i s.lastToken)

/-- What the service answers to items, and the run after the call. -/
def submission (p : Pipeline σ) (s : Run σ) (items : List WriteItem) :
    Answer (List SubmitResult) × Run σ :=
  p.call s (Submission.submit p.service p.options (items.map (·.request)))

/-- A call changes the world and may cancel the run. -/
theorem call_snd {α : Type} (p : Pipeline σ) (s : Run σ) (c : Call σ α) :
    ∃ world cancelled, (p.call s c).2 = { s with world, cancelled } :=
  ⟨_, _, rfl⟩

/-- A classification changes the world and may cancel the run, and leaves the rest of the state
alone. -/
theorem eq_of_classification {p : Pipeline σ} {s t : Run σ} {i : Input} {rest : List Input}
    {r : Answer (Answer (List WriteItem) × Nat)} (h : p.classification s i rest = (r, t)) :
    ∃ world cancelled, t = { s with inputs := rest, world, cancelled } := by
  obtain ⟨world, cancelled, ht⟩ := p.call_snd { s with inputs := rest }
    (p.classifier.items p.service s.read i s.lastToken)
  exact ⟨world, cancelled, (congrArg (·.2) h).symm.trans ht⟩

/-- A submission changes the world and may cancel the run, and leaves the rest of the state
alone. -/
theorem eq_of_submission {p : Pipeline σ} {s t : Run σ} {items : List WriteItem}
    {r : Answer (List SubmitResult)} (h : p.submission s items = (r, t)) :
    ∃ world cancelled, t = { s with world, cancelled } := by
  obtain ⟨world, cancelled, ht⟩ := p.call_snd s
    (Submission.submit p.service p.options (items.map (·.request)))
  exact ⟨world, cancelled, (congrArg (·.2) h).symm.trans ht⟩

/-- The input that the producer reads in its next step, and those after it. -/
def upcoming? (p : Pipeline σ) (s : Run σ) : Option (Input × List Input) :=
  match s.producer, s.inputs with
  | .reading, i :: rest => if s.cancelled || p.gap != 0 then none else some (i, rest)
  | .awaiting _, i :: rest => if s.cancelled then none else some (i, rest)
  | _, _ => none

/-- Whether the producer can read an input. It may have asked for the input before the run was
cancelled, and then it takes the input or leaves it. -/
def Run.CanRead (s : Run σ) : Prop :=
  s.producer = .reading ∧ s.cancelled = false ∨ ∃ due, s.producer = .awaiting due

/-- A step of a run, with the input that is read in it. No task breaks off. -/
inductive Step (p : Pipeline σ) : Run σ → Option Reading → Run σ → Prop where
  /-- Time passes. -/
  | pass (s : Run σ) (time : Nat) : Step p s none (s.at time)
  /-- The run is cancelled. -/
  | cancel (s : Run σ) : Step p s none s.cancel
  /-- The producer reads an input and classifies it. -/
  | read {s t : Run σ} {i : Input} {rest : List Input} {result : Answer (List WriteItem)}
      {last : Nat} (hread : s.CanRead) (hinputs : s.inputs = i :: rest)
      (hcall : p.classification s i rest = (.ok (result, last), t))
      (hresult : result ≠ .error .breach) :
      Step p s (some ⟨s.read, i, result, last⟩) (p.classified t i (.ok (result, last)))
  /-- The producer does something else. -/
  | produce {s : Run σ} (hdue : (p.producerDue? s).isSome) (hnone : p.upcoming? s = none) :
      Step p s none (p.produce s)
  /-- A worker takes a batch or leaves. -/
  | receive {s : Run σ} {id : Nat} (hw : s.workers[id]? = some .idle)
      (hdue : (workerDue? s .idle).isSome) : Step p s none (p.receive s id)
  /-- The service answers a worker. -/
  | answer {s t : Run σ} {id : Nat} {items : List WriteItem} {results : List SubmitResult}
      (hw : s.workers[id]? = some (.calling items))
      (hcall : p.submission s items = (.ok results, t)) :
      Step p s none (p.submitted t id items (.ok results))
  /-- The wait of a worker ends. -/
  | wake {s : Run σ} {id due : Nat} {items : List WriteItem}
      (hw : s.workers[id]? = some (.waiting due items)) :
      Step p s none (if s.cancelled then p.abandon s id items else send s id items)

/-- The runs that come of any order of steps, with the inputs that were read in them. -/
inductive Interleaving (p : Pipeline σ) (s : Run σ) : List Reading → Run σ → Prop where
  | start : Interleaving p s [] s
  | next {readings : List Reading} {t u : Run σ} {r : Option Reading}
      (run : Interleaving p s readings t) (step : Step p t r u) :
      Interleaving p s (readings ++ r.toList) u

/-! ### Steps of a worker -/

/-- A step of one worker. -/
inductive Working (p : Pipeline σ) (s : Run σ) (id : Nat) : Run σ → Prop where
  /-- It takes a batch or leaves. -/
  | receive (hw : s.workers[id]? = some .idle) (hdue : (workerDue? s .idle).isSome) :
      Working p s id (p.receive s id)
  /-- It is answered. -/
  | answer {t : Run σ} {items : List WriteItem} {results : List SubmitResult}
      (hw : s.workers[id]? = some (.calling items))
      (hcall : p.submission s items = (.ok results, t)) :
      Working p s id (p.submitted t id items (.ok results))
  /-- Its wait ends. -/
  | wake {due : Nat} {items : List WriteItem} (hw : s.workers[id]? = some (.waiting due items)) :
      Working p s id (if s.cancelled then p.abandon s id items else send s id items)

/-- What a worker does by itself is a step of the run. -/
theorem Working.step {p : Pipeline σ} {s t : Run σ} {id : Nat} (h : p.Working s id t) :
    p.Step s none t := by
  cases h with
  | receive hw hdue => exact .receive hw hdue
  | answer hw hcall => exact .answer hw hcall
  | wake hw => exact .wake hw

/-! ### What the producer does between two inputs -/

/-- What the producer can do when it reads no input. -/
inductive Passing (p : Pipeline σ) (s : Run σ) : Run σ → Prop where
  /-- It reads no more. -/
  | leave (hidle : s.producer = .reading ∨ ∃ due, s.producer = .awaiting due) :
      Passing p s (p.leave s)
  /-- It asks for an input. -/
  | ask (due : Nat) (hreading : s.producer = .reading) :
      Passing p s (s.setProducer (.awaiting due))
  /-- It has put all items of an input into batches. -/
  | resume (hfilling : s.producer = .filling []) : Passing p s (s.setProducer .reading)
  | fill {i : WriteItem} {rest : List WriteItem} (hfilling : s.producer = .filling (i :: rest)) :
      Passing p s (p.fill s i rest)
  | send {batch rest : List WriteItem} (hsending : s.producer = .sending batch rest) :
      Passing p s ((p.sendBatch s batch).setProducer (.filling rest))
  | close {batch : List WriteItem} (hclosing : s.producer = .closing batch) :
      Passing p s (p.finish (p.sendBatch s batch))

/-- A producer that is due and has no input to take does one of these things. -/
theorem passing_produce {p : Pipeline σ} {s : Run σ} (hdue : (p.producerDue? s).isSome)
    (hnone : p.upcoming? s = none) : p.Passing s (p.produce s) := by
  unfold produce
  unfold upcoming? at hnone
  cases hproducer : s.producer with
  | reading =>
    cases hinputs : s.inputs with
    | nil => exact .leave (.inl hproducer)
    | cons i rest =>
      rw [hproducer, hinputs] at hnone
      dsimp only at hnone ⊢
      split
      · exact .leave (.inl hproducer)
      · rename_i hcancelled
        -- without a gap the input would have come up
        have hgap : p.gap ≠ 0 := by
          intro hgap
          simp [hcancelled, hgap] at hnone
        rw [if_neg hgap]
        exact .ask _ hproducer
  | awaiting due =>
    cases hinputs : s.inputs with
    | nil => exact .leave (.inr ⟨due, hproducer⟩)
    | cons i rest =>
      rw [hproducer, hinputs] at hnone
      dsimp only at hnone ⊢
      split
      · exact .leave (.inr ⟨due, hproducer⟩)
      · rename_i hcancelled
        simp [hcancelled] at hnone
  | filling items =>
    cases items with
    | nil => exact .resume hproducer
    | cons i rest => exact .fill hproducer
  | sending batch rest => exact .send hproducer
  | closing batch => exact .close hproducer
  | finished => simp [producerDue?, hproducer] at hdue

/-! ### The schedule is one of them -/

/-- Whether a task breaks off when an actor acts: the classification of an input or the call of a
worker ends in a breach. -/
def Breaks (p : Pipeline σ) (s : Run σ) : Actor → Prop
  | .producer => ∃ i rest, p.upcoming? s = some (i, rest) ∧
      ∀ result last, (p.classification s i rest).1 = .ok (result, last) →
        result = .error .breach
  | .worker id => ∃ items, s.workers[id]? = some (.calling items) ∧
      ∃ e, (p.submission s items).1 = .error e
  | .canceller => False

/-- If an input is up next, the producer can take it, and it is the first of the inputs. -/
theorem canRead_of_upcoming {p : Pipeline σ} {s : Run σ} {i : Input} {rest : List Input}
    (h : p.upcoming? s = some (i, rest)) : s.CanRead ∧ s.inputs = i :: rest := by
  unfold upcoming? at h
  split at h
  · rename_i hproducer hinputs
    split at h
    · exact nomatch h
    · rename_i hcancelled
      obtain ⟨rfl, rfl⟩ := Prod.mk.inj (Option.some.inj h)
      have hnot : s.cancelled = false := by simp_all
      exact ⟨.inl ⟨hproducer, hnot⟩, hinputs⟩
  · rename_i hproducer hinputs
    split at h
    · exact nomatch h
    · obtain ⟨rfl, rfl⟩ := Prod.mk.inj (Option.some.inj h)
      exact ⟨.inr ⟨_, hproducer⟩, hinputs⟩
  · exact nomatch h

/-- The producer classifies the input that comes up. -/
theorem produce_of_upcoming {p : Pipeline σ} {s : Run σ} {i : Input} {rest : List Input}
    (h : p.upcoming? s = some (i, rest)) : p.produce s = p.takeInput s i rest := by
  unfold upcoming? at h
  unfold produce
  split at h
  · rename_i hproducer hinputs
    split at h
    · exact nomatch h
    · rename_i hcancelled
      obtain ⟨rfl, rfl⟩ := Prod.mk.inj (Option.some.inj h)
      have hnot : s.cancelled = false ∧ p.gap = 0 := by simp_all
      simp [hproducer, hinputs, hnot.1, hnot.2]
  · rename_i hproducer hinputs
    split at h
    · exact nomatch h
    · rename_i hcancelled
      obtain ⟨rfl, rfl⟩ := Prod.mk.inj (Option.some.inj h)
      simp [hproducer, hinputs, hcancelled]
  · exact nomatch h

/-- The producer reads the input that comes up, unless its classification breaks off. -/
theorem read_of_upcoming {p : Pipeline σ} {s : Run σ} {i : Input} {rest : List Input}
    (hup : p.upcoming? s = some (i, rest)) (hb : ¬p.Breaks s .producer) :
    ∃ r, p.Step s (some r) (p.produce s) := by
  obtain ⟨hread, hinputs⟩ := canRead_of_upcoming hup
  have hproduce : p.produce s =
      p.classified (p.classification s i rest).2 i (p.classification s i rest).1 :=
    produce_of_upcoming hup
  rw [hproduce]
  cases hcall : (p.classification s i rest).1 with
  -- a task that does not break off has an answer, and that is no breach
  | error e => exact absurd ⟨i, rest, hup, fun _ _ hok => nomatch hcall.symm.trans hok⟩ hb
  | ok answer =>
    obtain ⟨result, last⟩ := answer
    have hresult : result ≠ .error .breach := by
      rintro rfl
      refine hb ⟨i, rest, hup, fun result' last' hok => ?_⟩
      cases hcall.symm.trans hok
      rfl
    exact ⟨_, .read hread hinputs (Prod.ext hcall rfl) hresult⟩

/-- A worker that can act takes a step, unless its call breaks off. -/
theorem working_of_due {p : Pipeline σ} {s : Run σ} {id : Nat} {w : Worker}
    (hw : s.workers[id]? = some w) (hdue : (workerDue? s w).isSome)
    (hb : ¬p.Breaks s (.worker id)) : p.Working s id (p.work s id) := by
  unfold work
  rw [hw]
  cases w with
  | gone => simp [workerDue?] at hdue
  | idle => exact .receive hw hdue
  | waiting due items => exact .wake hw
  | calling items =>
    cases hcall : (p.submission s items).1 with
    | error e => exact absurd ⟨items, hw, e, hcall⟩ hb
    | ok results =>
      have hanswer : p.answer s id items =
          p.submitted (p.submission s items).2 id items (.ok results) := by
        rw [← hcall]
        rfl
      show p.Working s id (p.answer s id items)
      rw [hanswer]
      exact .answer hw (Prod.ext hcall rfl)

/-- What an actor does who can act is a step, unless its task breaks off. -/
theorem step_of_due {p : Pipeline σ} {s : Run σ} {a : Actor} (h : (p.due? s a).isSome)
    (hb : ¬p.Breaks s a) : ∃ r, p.Step s r (p.act s a) := by
  cases a with
  | canceller => exact ⟨none, .cancel s⟩
  | producer =>
    cases hup : p.upcoming? s with
    | none => exact ⟨none, .produce h hup⟩
    | some next =>
      obtain ⟨r, hstep⟩ := read_of_upcoming hup hb
      exact ⟨some r, hstep⟩
  | worker id =>
    obtain ⟨time, htime⟩ := Option.isSome_iff_exists.1 h
    obtain ⟨w, hw, hdue⟩ := Option.bind_eq_some_iff.1 htime
    exact ⟨none, (working_of_due hw (hdue ▸ rfl) hb).step⟩

/-- Whether an actor can act does not hang on the time. -/
theorem due?_at_isSome (p : Pipeline σ) (s : Run σ) (t : Nat) (a : Actor) :
    (p.due? (s.at t) a).isSome = (p.due? s a).isSome := by
  cases a with
  | producer =>
    have hsend : p.canSend (s.at t) = p.canSend s := rfl
    have hproducer : (s.at t).producer = s.producer := rfl
    simp only [due?, producerDue?, hsend, hproducer]
    cases s.producer with
    | sending batch items => cases p.canSend s <;> rfl
    | closing batch => cases p.canSend s <;> rfl
    | _ => rfl
  | worker id =>
    have hworkers : (s.at t).workers = s.workers := rfl
    simp only [due?, hworkers]
    cases s.workers[id]? with
    | none => rfl
    | some w =>
      cases w with
      | idle =>
        show (if s.queue.isEmpty && !s.isClosed then none else some t).isSome =
          (if s.queue.isEmpty && !s.isClosed then none else some s.time).isSome
        cases s.queue.isEmpty && !s.isClosed <;> rfl
      | _ => rfl
  | canceller => rfl

/-- A run that goes on in any order of steps can be scheduled from there. -/
theorem interleaving_run {p : Pipeline σ} {s : Run σ}
    (hb : ∀ readings t, p.Interleaving s readings t → ∀ a, ¬p.Breaks t a) :
    ∃ readings, p.Interleaving s readings (p.run s) := by
  suffices hrun : ∀ readings t, p.Interleaving s readings t →
      ∃ readings', p.Interleaving s readings' (p.run t) from hrun [] s .start
  intro readings t
  -- along the schedule itself, which ends because every step leaves less to do
  induction t using run.induct p generalizing readings with
  | case1 t hnext =>
    intro h
    rw [run, hnext]
    exact ⟨readings, h⟩
  | case2 t a time hnext ih =>
    intro h
    -- a round of the schedule is two steps: the clock moves on, and the actor acts
    have hdue : (p.due? (t.at time) a).isSome := by
      rw [due?_at_isSome, due?_of_next? hnext]
      rfl
    have hpass : p.Interleaving s (readings ++ []) (t.at time) := .next h (.pass t time)
    obtain ⟨r, hstep⟩ := step_of_due hdue (hb _ _ hpass a)
    rw [run, hnext]
    exact ih _ (.next hpass hstep)

/-! ### The schedule ends when all is done -/

/-- There is no earlier one of two only if both are missing. -/
theorem earlier_eq_none {a b : Option (Actor × Nat)} (h : earlier a b = none) :
    a = none ∧ b = none := by
  cases a with
  | none => exact ⟨rfl, h⟩
  | some a =>
    cases b with
    | none => exact nomatch h
    | some b =>
      unfold earlier at h
      dsimp only at h
      split at h <;> exact nomatch h

/-- If nobody is first, none of the actors is due. -/
theorem due?_eq_none_of_earliest? {p : Pipeline σ} {s : Run σ} {actors : List Actor}
    (h : p.earliest? s actors = none) : ∀ a ∈ actors, p.due? s a = none := by
  induction actors with
  | nil => simp
  | cons b rest ih =>
    rw [earliest?] at h
    obtain ⟨hb, hrest⟩ := earlier_eq_none h
    intro a ha
    rcases List.mem_cons.1 ha with rfl | ha
    · exact Option.map_eq_none_iff.1 hb
    · exact ih hrest a ha

/-- Nobody is left who can act: the producer has passed on all it will, and the workers have
gone. -/
theorem isOver_of_due {p : Pipeline σ} {s : Run σ} (hp : 0 < p.options.parallelism)
    (hproducer : p.producerDue? s = none) (hworker : ∀ w ∈ s.workers, workerDue? s w = none) :
    s.isOver = true := by
  -- a worker that is still there waits for a batch
  have hidle : s.hasWorkers = true → s.queue = [] ∧ s.isClosed = false := by
    intro hworkers
    obtain ⟨w, hw, hthere⟩ := List.any_eq_true.1 hworkers
    have hdue := hworker w hw
    cases w with
    | idle =>
      unfold workerDue? at hdue
      simpa using hdue
    | calling items => exact nomatch hdue
    | waiting due items => exact nomatch hdue
    | gone => exact nomatch hthere
  -- so the queue has room, and the producer is not held up by it
  have hsend : p.canSend s = true := by
    unfold canSend
    cases hworkers : s.hasWorkers with
    | false => simp
    | true => simp [(hidle hworkers).1, hp]
  have hclosed : s.isClosed = true := by
    unfold producerDue? at hproducer
    unfold Run.isClosed
    split at hproducer <;> simp_all
  have hgone : s.hasWorkers = false := by
    cases hworkers : s.hasWorkers with
    | false => rfl
    | true => exact nomatch (hidle hworkers).2.symm.trans hclosed
  simp [Run.isOver, hclosed, hgone]

/-- If nobody is next, the run is over: all workers have gone, and before them the producer. -/
theorem isOver_of_next? {p : Pipeline σ} {s : Run σ} (hp : 0 < p.options.parallelism)
    (h : p.next? s = none) : s.isOver = true := by
  have hall := due?_eq_none_of_earliest? h
  have hproducer : p.producerDue? s = none := hall .producer (by simp [actors])
  refine isOver_of_due hp hproducer fun w hw => ?_
  obtain ⟨id, hid, rfl⟩ := List.mem_iff_getElem.1 hw
  have hdue : (s.workers[id]?.bind (workerDue? s)) = none := hall (.worker id) (by
    simp only [actors, List.mem_append, List.mem_cons, List.mem_map, List.mem_range]
    exact .inl (.inr (.inr ⟨id, hid, rfl⟩)))
  rwa [List.getElem?_eq_getElem hid, Option.bind_some] at hdue

/-- A scheduled run goes on until all is done. -/
theorem isOver_run {p : Pipeline σ} (hp : 0 < p.options.parallelism) (s : Run σ) :
    (p.run s).isOver = true := by
  induction s using run.induct p with
  | case1 s hnext =>
    rw [run, hnext]
    exact isOver_of_next? hp hnext
  | case2 s a time hnext ih =>
    rw [run, hnext]
    exact ih

end RecordService.Pipeline
