import RecordService.Proofs.Pipeline.Termination
import RecordService.Proofs.Pipeline.Workers

namespace RecordService.Pipeline

/-!
# Runs that are cancelled

Once a run is cancelled, nothing new is started. What a worker has sent may still be answered, and
an input that the producer has asked for may still come, but no worker goes to the service any
more: whatever is in the queue, on its way into it or waiting to be sent again fails as cancelled,
with the attempts that it has had.

* `calling_of_step`: in a cancelled run no worker goes to the service.
* `Run.Withheld`, `withheld_step`: the items that are not sent any more.
* `answered_step`: the items that are still with the service.
* `asked_step`: the input that may still come.
* `WindsDown`, `windsDown_of_interleaving`: every cancelled run winds down.
-/

variable {σ : Type} {p : Pipeline σ}

/-! ### No worker goes to the service -/

/-- A run that is cancelled stays so. -/
theorem cancelled_of_step {s t : Run σ} {r : Option Reading} (h : s.cancelled = true)
    (hstep : p.Step s r t) : t.cancelled = true := by
  cases ht : t.cancelled with
  | true => rfl
  | false => exact nomatch h.symm.trans (cancelled_step hstep ht)

/-- After a step of its own in a cancelled run, a worker is not with the service. -/
theorem not_calling_of_working {s t : Run σ} {id : Nat} (h : s.cancelled = true)
    (hown : p.Working s id t) (items : List WriteItem) :
    t.workers[id]? ≠ some (.calling items) := by
  intro hcalling
  cases hown with
  | receive hw =>
    unfold receive at hcalling
    cases hqueue : s.queue with
    | nil =>
      rw [hqueue] at hcalling
      exact nomatch (getElem?_setWorker_self hw .gone).symm.trans hcalling
    | cons batch queue =>
      rw [hqueue] at hcalling
      dsimp only at hcalling
      rw [if_pos h] at hcalling
      exact nomatch hw.symm.trans hcalling
  | @answer u sent results hw hcall =>
    obtain ⟨world, cancelled, rfl⟩ := eq_of_submission hcall
    obtain ⟨w, hworkers, hw'⟩ := workers_settled (p := p) { s with world, cancelled } id
      (Submission.settle p.entity.name p.options sent results)
    have hself : (s.workers.set id w)[id]? = some w := getElem?_setWorker_self hw w
    have hset : (s.workers.set id w)[id]? = some (.calling items) := hworkers ▸ hcalling
    exact hw' items (Option.some.inj (hself.symm.trans hset))
  | wake hw =>
    rw [if_pos h] at hcalling
    exact nomatch (getElem?_setWorker_self hw .idle).symm.trans hcalling

/-- **No call is made.** A worker that is with the service after a step of a cancelled run was
there before, for the same items. -/
theorem calling_of_step {s t : Run σ} {r : Option Reading} (h : s.cancelled = true)
    (hstep : p.Step s r t) {id : Nat} {items : List WriteItem}
    (hw : t.workers[id]? = some (.calling items)) : s.workers[id]? = some (.calling items) := by
  rcases worker_step hstep id with hsame | hown
  · rwa [← hsame]
  · exact absurd hw (not_calling_of_working h hown items)

/-! ### Items that are not sent any more -/

/-- Whether an item waits with a worker to be sent again. -/
def Run.Waits (s : Run σ) (i : WriteItem) : Prop :=
  ∃ (id due : Nat) (items : List WriteItem),
    s.workers[id]? = some (.waiting due items) ∧ i ∈ items

/-- Whether an item has to be sent, for the first time or again. -/
def Run.Withheld (s : Run σ) (i : WriteItem) : Prop :=
  i ∈ s.queued ∨ s.Waits i

/-- The outcome of an item that is given up because the run is cancelled. -/
def cancelledOutcome (p : Pipeline σ) (i : WriteItem) : ItemOutcome :=
  i.failed p.entity.name (.of .cancelled) false

/-- Items that fail as cancelled have their outcome. -/
theorem mem_outcomes_failItems {s : Run σ} {items : List WriteItem} {i : WriteItem}
    (hi : i ∈ items) :
    p.cancelledOutcome i ∈ (s.failItems p.entity.name items (.of .cancelled)).outcomes :=
  List.mem_append_left _ (List.mem_reverse.2 (List.mem_map_of_mem hi))

/-- A producer that is still there has workers to send to. -/
theorem Run.Tidy.hasWorkers {s : Run σ} (h : s.Tidy) (hworkers : s.workers ≠ [])
    (hproducer : s.producer ≠ .finished) : s.hasWorkers = true := by
  obtain ⟨w, hw⟩ := List.exists_mem_of_ne_nil _ hworkers
  refine List.any_eq_true.2 ⟨w, hw, ?_⟩
  cases w with
  | gone => exact absurd hw (h.gone_notMem hproducer)
  | _ => rfl

/-- The producer passes items on, or gives the open batch up. -/
theorem queued_of_passing {s t : Run σ} (htidy : s.Tidy) (hworkers : s.workers ≠ [])
    (h : p.Passing s t) {i : WriteItem} (hi : i ∈ s.queued) :
    i ∈ t.queued ∨ p.cancelledOutcome i ∈ t.outcomes := by
  -- there are workers as long as the producer is there, so a batch that is sent is queued
  have hsend : ∀ batch, s.producer ≠ .finished →
      p.sendBatch s batch = { s with queue := s.queue ++ [batch] } := by
    intro batch hproducer
    rw [sendBatch, if_pos (htidy.hasWorkers hworkers hproducer)]
  cases h with
  | leave hidle =>
    rw [queued_of_idle hidle] at hi
    unfold leave
    split
    · rename_i hempty
      rw [List.isEmpty_iff.1 hempty, List.append_nil] at hi
      exact .inl (List.mem_append_left _ hi)
    · split
      · rcases List.mem_append.1 hi with hi | hi
        · exact .inl (List.mem_append_left _ hi)
        · exact .inr (mem_outcomes_failItems hi)
      · left
        simpa [Run.queued, Producer.leaving, Producer.coming] using hi
  | ask due hreading =>
    left
    simpa [Run.queued, Run.setProducer, hreading, Producer.leaving, Producer.coming] using hi
  | resume hfilling =>
    left
    simpa [Run.queued, Run.setProducer, hfilling, Producer.leaving, Producer.coming] using hi
  | fill hfilling =>
    left
    unfold fill
    dsimp only
    split <;> simpa [Run.queued, hfilling, Producer.leaving, Producer.coming] using hi
  | @send batch rest hsending =>
    left
    rw [hsend batch (by simp [hsending])]
    simpa [Run.queued, Run.setProducer, hsending, Producer.leaving, Producer.coming] using hi
  | @close batch hclosing =>
    left
    rw [Run.queued, hclosing, htidy.closing _ hclosing] at hi
    rw [hsend batch (by simp [hclosing])]
    simpa [Run.queued, finish, Run.note, Producer.leaving, Producer.coming] using hi

/-- Settling the answer to a batch leaves what no worker has. -/
theorem queued_settled (s : Run σ) (id : Nat) (r : Submission.Settlement) :
    (p.settled s id r).queued = s.queued := by
  unfold settled
  dsimp only
  split <;> rfl

/-- What no worker has stays so in a cancelled run, or fails as cancelled. -/
theorem queued_step {s t : Run σ} {r : Option Reading} (h : s.cancelled = true) (htidy : s.Tidy)
    (hworkers : s.workers ≠ []) (hstep : p.Step s r t) {i : WriteItem} (hi : i ∈ s.queued) :
    i ∈ t.queued ∨ p.cancelledOutcome i ∈ t.outcomes := by
  cases hstep with
  | pass => exact .inl hi
  | cancel => exact .inl hi
  | read hread hinputs hcall hresult =>
    rw [(queued_read (.read hread hinputs hcall hresult)).1]
    exact .inl (List.mem_append_left _ hi)
  | produce hdue hnone => exact queued_of_passing htidy hworkers (passing_produce hdue hnone) hi
  | receive =>
    unfold receive
    cases hqueue : s.queue with
    | nil => exact .inl hi
    | cons batch queue =>
      rw [Run.queued, hqueue, List.flatten_cons, List.append_assoc] at hi
      dsimp only
      rw [if_pos h]
      rcases List.mem_append.1 hi with hi | hi
      · exact .inr (mem_outcomes_failItems hi)
      · exact .inl hi
  | @answer u id items results hw hcall =>
    obtain ⟨world, cancelled, rfl⟩ := eq_of_submission hcall
    left
    show i ∈ (p.settled _ id _).queued
    rw [queued_settled]
    exact hi
  | wake =>
    left
    split <;> exact hi

/-- What waits to be sent again waits on in a cancelled run, or fails as cancelled. -/
theorem waits_step {s t : Run σ} {r : Option Reading} (h : s.cancelled = true)
    (hstep : p.Step s r t) {i : WriteItem} (hi : s.Waits i) :
    t.Waits i ∨ p.cancelledOutcome i ∈ t.outcomes := by
  obtain ⟨id, due, items, hw, hi⟩ := hi
  rcases worker_step hstep id with hsame | hown
  · exact .inl ⟨id, due, items, hsame.trans hw, hi⟩
  · cases hown with
    | receive hidle => exact nomatch hidle.symm.trans hw
    | answer hcalling => exact nomatch hcalling.symm.trans hw
    | wake hwaiting =>
      cases hwaiting.symm.trans hw
      rw [if_pos h]
      exact .inr (mem_outcomes_failItems hi)

/-- **Withheld items.** In a cancelled run an item that has to be sent is withheld until it fails
as cancelled. -/
theorem withheld_step {s t : Run σ} {r : Option Reading} (h : s.cancelled = true)
    (htidy : s.Tidy) (hworkers : s.workers ≠ []) (hstep : p.Step s r t) {i : WriteItem}
    (hi : s.Withheld i ∨ p.cancelledOutcome i ∈ s.outcomes) :
    t.Withheld i ∨ p.cancelledOutcome i ∈ t.outcomes := by
  rcases hi with (hi | hi) | hi
  · exact (queued_step h htidy hworkers hstep hi).imp_left .inl
  · exact (waits_step h hstep hi).imp_left .inr
  · exact .inr ((outcomes_step hstep).subset hi)

/-! ### Items that are with the service -/

/-- Items that are to be sent again wait. -/
theorem waits_settled {s : Run σ} {id : Nat} {w : Worker} {r : Submission.Settlement}
    {i : WriteItem} (hw : s.workers[id]? = some w) (hi : i ∈ r.retry) :
    (p.settled s id r).Waits i := by
  rcases getElem?_settled (p := p) hw r with ⟨hretry, -⟩ | ⟨-, due, hwaiting⟩
  · rw [hretry] at hi
    exact nomatch hi
  · exact ⟨id, due, r.retry, hwaiting, hi⟩

/-- An item that is answered ends, or it waits to be sent again. -/
theorem ends_or_waits {s t : Run σ} {id : Nat} {items : List WriteItem}
    {results : List SubmitResult} (hw : s.workers[id]? = some (.calling items))
    (hcall : p.submission s items = (.ok results, t)) {i : WriteItem} {r : SubmitResult}
    (hi : (i, r) ∈ items.zip results) :
    if Submission.isRetried p.options i r then (p.submitted t id items (.ok results)).Waits i
    else Submission.ending p.entity.name p.options i r ∈
      (p.submitted t id items (.ok results)).outcomes := by
  obtain ⟨world, cancelled, rfl⟩ := eq_of_submission hcall
  split
  · rename_i hretried
    refine waits_settled (s := { s with world, cancelled }) hw ?_
    rw [Submission.retry_settle_eq]
    exact List.mem_map.2 ⟨(i, r), List.mem_filter.2 ⟨hi, hretried⟩, rfl⟩
  · rename_i hended
    show _ ∈ (p.settled _ id _).outcomes
    rw [outcomes_settled, Submission.outcomes_settle]
    refine List.mem_append_left _ (List.mem_reverse.2 (List.mem_map.2 ⟨(i, r), ?_, rfl⟩))
    exact List.mem_filter.2 ⟨hi, by simpa using hended⟩

/-- A worker that is with the service stays there until it is answered. -/
theorem answered_step {s t : Run σ} {r : Option Reading} (hstep : p.Step s r t) {id : Nat}
    {items : List WriteItem} (hw : s.workers[id]? = some (.calling items)) :
    t.workers[id]? = some (.calling items) ∨
      ∃ results u, p.submission s items = (.ok results, u) ∧
        t = p.submitted u id items (.ok results) := by
  rcases worker_step hstep id with hsame | hown
  · exact .inl (hsame.trans hw)
  · cases hown with
    | receive hidle => exact nomatch hidle.symm.trans hw
    | answer hcalling hcall =>
      cases hcalling.symm.trans hw
      exact .inr ⟨_, _, hcall, rfl⟩
    | wake hwaiting => exact nomatch hwaiting.symm.trans hw

/-! ### The input that may still come -/

/-- The number of inputs that the producer has asked for and not got yet. -/
def Producer.asked : Producer → Nat
  | .awaiting _ => 1
  | _ => 0

/-- A producer that leaves has asked for no input. -/
theorem asked_leave (s : Run σ) : (p.leave s).producer.asked = 0 := by
  unfold leave
  split
  · rfl
  · split <;> rfl

/-- In a cancelled run the producer asks for no input. -/
theorem asked_produce {s : Run σ} (h : s.cancelled = true) :
    (p.produce s).producer.asked ≤ s.producer.asked := by
  unfold produce
  cases hproducer : s.producer with
  | reading =>
    cases s.inputs with
    | nil => exact (asked_leave s).le
    | cons i rest =>
      dsimp only
      rw [if_pos h]
      exact (asked_leave s).le
  | awaiting due =>
    cases s.inputs with
    | nil => exact (asked_leave s).le.trans (Nat.zero_le _)
    | cons i rest =>
      dsimp only
      rw [if_pos h]
      exact (asked_leave s).le.trans (Nat.zero_le _)
  | filling items =>
    cases items with
    | nil => exact Nat.le_refl _
    | cons i rest =>
      dsimp only [fill]
      split <;> exact Nat.le_refl _
  | sending batch rest => exact Nat.le_refl _
  | closing batch => exact Nat.le_refl _
  | finished => exact (congrArg Producer.asked hproducer).le

/-- What a worker does by itself leaves the producer alone. -/
theorem producer_working {s t : Run σ} {id : Nat} (h : p.Working s id t) :
    t.producer = s.producer := by
  cases h with
  | receive =>
    unfold receive
    cases s.queue with
    | nil => rfl
    | cons batch queue =>
      dsimp only
      split <;> rfl
  | @answer u items results hw hcall =>
    obtain ⟨world, cancelled, rfl⟩ := eq_of_submission hcall
    show (p.settled _ id _).producer = _
    unfold settled
    dsimp only
    split <;> rfl
  | wake => split <;> rfl

/-- **No further input.** In a cancelled run an input is read only if the producer has asked for it
before, and after that there is none to come. -/
theorem asked_step {s t : Run σ} {r : Option Reading} (h : s.cancelled = true)
    (hstep : p.Step s r t) : r.toList.length + t.producer.asked ≤ s.producer.asked := by
  cases hstep with
  | pass => exact (Nat.zero_add _).le
  | cancel => exact (Nat.zero_add _).le
  | @read u i rest result last hread hinputs hcall hresult =>
    have hs : s.producer.asked = 1 := by
      rcases hread with ⟨-, hnot⟩ | ⟨due, hawaiting⟩
      · exact nomatch h.symm.trans hnot
      · rw [hawaiting]
        rfl
    have ht : (p.classified u i (.ok (result, last))).producer.asked = 0 := by
      cases result with
      | ok items => rfl
      | error e =>
        cases e with
        | breach => exact absurd rfl hresult
        | error => rfl
    rw [hs, ht]
    exact Nat.le_refl _
  | produce => exact (Nat.zero_add _).le.trans (asked_produce h)
  | receive hw hdue =>
    rw [producer_working (.receive hw hdue)]
    exact (Nat.zero_add _).le
  | answer hw hcall =>
    rw [producer_working (.answer hw hcall)]
    exact (Nat.zero_add _).le
  | wake hw =>
    rw [producer_working (.wake hw)]
    exact (Nat.zero_add _).le

/-! ### Items without a worker were never sent -/

/-- The items that no worker has were there before, or they are read in the step. -/
theorem mem_queued_step {s t : Run σ} {r : Option Reading} (htidy : s.Tidy)
    (hstep : p.Step s r t) {i : WriteItem} (hi : i ∈ t.queued) :
    i ∈ s.queued ∨ ∃ r' ∈ r, i ∈ r'.items := by
  cases r with
  | some r =>
    rw [(queued_read hstep).1] at hi
    exact (List.mem_append.1 hi).imp_right fun hi => ⟨r, rfl, hi⟩
  | none =>
    left
    cases hstep with
    | pass => exact hi
    | cancel => exact hi
    | produce hdue hnone =>
      rcases queued_passing (passing_produce hdue hnone) htidy with ⟨heq, -⟩ | ⟨-, hsub⟩
      · exact heq ▸ hi
      · exact hsub.subset hi
    -- a batch that is taken was in the queue, and what is left of it was behind that
    | receive =>
      unfold receive at hi
      cases hqueue : s.queue with
      | nil =>
        rw [hqueue] at hi
        exact hi
      | cons batch queue =>
        rw [hqueue] at hi
        rw [Run.queued, hqueue, List.flatten_cons, List.append_assoc]
        refine List.mem_append_right _ ?_
        dsimp only at hi
        split at hi <;> exact hi
    | @answer u id items results hw hcall =>
      obtain ⟨world, cancelled, rfl⟩ := eq_of_submission hcall
      have hqueued : i ∈ (p.settled _ id _).queued := hi
      rwa [queued_settled] at hqueued
    | wake => split at hi <;> exact hi

/-- The items that an input is classified to have not been sent. -/
theorem attempts_of_read {s t : Run σ} {r : Reading} (hstep : p.Step s (some r) t) :
    ∀ i ∈ r.items, i.attempts = 0 := by
  obtain ⟨-, -, -, w, w', hrun⟩ := extent_read hstep
  intro i hi
  unfold Reading.items at hi
  cases hresult : r.result with
  | error e =>
    rw [hresult] at hi
    exact nomatch hi
  | ok items =>
    rw [hresult] at hi
    exact (((Classifier.items_eq_ok hrun).2 items hresult).2.2 i hi).2.2

/-! ### Runs -/

section

variable {inputs : List Input} {readings : List Reading}

/-- What was conserved is conserved as the run goes on. -/
theorem Conserved.interleaving {s t : Run σ} {readings' : List Reading}
    (h : p.Conserved inputs readings s) (hrun : p.Interleaving s readings' t) :
    p.Conserved inputs (readings ++ readings') t := by
  induction hrun with
  | start => rwa [List.append_nil]
  | @next _ _ _ r _ hstep ih =>
    rw [← List.append_assoc]
    cases r with
    | none =>
      rw [Option.toList_none, List.append_nil]
      exact conserved_idle ih hstep
    | some r => exact conserved_read ih hstep

/-- Items that no worker has were never sent. -/
theorem attempts_of_queued {w : World σ} {cancelAt : Option Nat} {s : Run σ}
    (hrun : p.Interleaving { p.start w inputs with cancelAt } readings s) :
    ∀ i ∈ s.queued, i.attempts = 0 := by
  induction hrun with
  | start => exact fun i hi => nomatch hi
  | next hrun hstep ih =>
    intro i hi
    rcases mem_queued_step (conserved_interleaving hrun).tidy hstep hi with hi | ⟨r, hr, hi⟩
    · exact ih i hi
    · cases hr
      exact attempts_of_read hstep i hi

/-- A cancelled run stays cancelled, however far it goes on. -/
theorem cancelled_interleaving {s t : Run σ} {readings' : List Reading} (h : s.cancelled = true)
    (hrun : p.Interleaving s readings' t) : t.cancelled = true := by
  induction hrun with
  | start => exact h
  | next _ hstep ih => exact cancelled_of_step ih hstep

/-- What is read after the cancellation had been asked for before it. -/
theorem asked_interleaving {s t : Run σ} {readings' : List Reading} (h : s.cancelled = true)
    (hrun : p.Interleaving s readings' t) :
    readings'.length + t.producer.asked ≤ s.producer.asked := by
  induction hrun with
  | start => exact (Nat.zero_add _).le
  | next hrun hstep ih =>
    have hasked := asked_step (cancelled_interleaving h hrun) hstep
    rw [List.length_append]
    omega

/-- A worker that is with the service after the cancellation has been there since before it. -/
theorem calling_interleaving {s t : Run σ} {readings' : List Reading} (h : s.cancelled = true)
    (hrun : p.Interleaving s readings' t) {id : Nat} {items : List WriteItem}
    (hw : t.workers[id]? = some (.calling items)) : s.workers[id]? = some (.calling items) := by
  induction hrun with
  | start => exact hw
  | next hrun hstep ih => exact ih (calling_of_step (cancelled_interleaving h hrun) hstep hw)

/-- Runs keep the number of their workers, so there are some if there were to be any. -/
theorem Conserved.workers_ne_nil {s : Run σ} (h : p.Conserved inputs readings s)
    (hp : 0 < p.options.parallelism) : s.workers ≠ [] := by
  rw [← List.length_pos_iff, h.workers]
  exact hp

/-- An item that was not sent before the cancellation is not sent after it: it waits, or it has
failed as cancelled. -/
theorem withheld_interleaving {s t : Run σ} {readings' : List Reading} (h : s.cancelled = true)
    (hconserved : p.Conserved inputs readings s) (hp : 0 < p.options.parallelism)
    (hrun : p.Interleaving s readings' t) {i : WriteItem}
    (hi : s.Withheld i ∨ p.cancelledOutcome i ∈ s.outcomes) :
    t.Withheld i ∨ p.cancelledOutcome i ∈ t.outcomes := by
  induction hrun with
  | start => exact hi
  | next hrun hstep ih =>
    have hbefore := hconserved.interleaving hrun
    exact withheld_step (cancelled_interleaving h hrun) hbefore.tidy
      (hbefore.workers_ne_nil hp) hstep ih

/-- The items of a worker that is with the service stay there until it is answered, in some state of
the run. Those that the answer does not end are given up. -/
theorem answered_interleaving {s t : Run σ} {readings' : List Reading} (h : s.cancelled = true)
    (hconserved : p.Conserved inputs readings s) (hp : 0 < p.options.parallelism)
    (hrun : p.Interleaving s readings' t) {id : Nat} {items : List WriteItem}
    (hw : s.workers[id]? = some (.calling items)) :
    t.workers[id]? = some (.calling items) ∨
      ∃ readings'' u results v, p.Interleaving s readings'' u ∧
        p.submission u items = (.ok results, v) ∧ ∀ i r, (i, r) ∈ items.zip results →
          if Submission.isRetried p.options i r then
            t.Withheld i ∨ p.cancelledOutcome i ∈ t.outcomes
          else Submission.ending p.entity.name p.options i r ∈ t.outcomes := by
  induction hrun with
  | start => exact .inl hw
  | @next readings₁ u v r hrun hstep ih =>
    -- the worker is still there and may be answered now, or it was answered before
    rcases ih with hcalling | ⟨readings'', u', results, v', hrun', hcall, hends⟩
    · rcases answered_step hstep hcalling with hstill | ⟨results, v', hcall, rfl⟩
      · exact .inl hstill
      · refine .inr ⟨readings₁, u, results, v', hrun, hcall, fun i r hi => ?_⟩
        have hends := ends_or_waits hcalling hcall hi
        split
        · rename_i hretried
          rw [if_pos hretried] at hends
          exact .inl (.inr hends)
        · rename_i hended
          rwa [if_neg hended] at hends
    · refine .inr ⟨readings'', u', results, v', hrun', hcall, fun i r hi => ?_⟩
      have hbefore := hconserved.interleaving hrun
      have hi' := hends i r hi
      split
      · rename_i hretried
        rw [if_pos hretried] at hi'
        exact withheld_step (cancelled_interleaving h hrun) hbefore.tidy
          (hbefore.workers_ne_nil hp) hstep hi'
      · rename_i hended
        rw [if_neg hended] at hi'
        exact (outcomes_step hstep).subset hi'

end

/-! ### One place for each item -/

/-- The ticket of an item is among those of a batch that it is in. -/
theorem ticket_mem_tickets {items : List WriteItem} {i : WriteItem} (h : i ∈ items) :
    i.ticket ∈ WriteItem.tickets items :=
  Multiset.mem_coe.2 (List.mem_map_of_mem h)

/-- The tickets of a run are those of the items that no worker has, those of the workers and those
of the outcomes. -/
theorem tickets_eq_queued (s : Run σ) :
    s.tickets = WriteItem.tickets s.queued + (s.workers.map Worker.tickets).sum +
      ItemOutcome.tickets s.outcomes := by
  have hqueue : ∀ queue : List (List WriteItem),
      WriteItem.tickets queue.flatten = (queue.map WriteItem.tickets).sum := by
    intro queue
    induction queue with
    | nil => rfl
    | cons batch queue ih =>
      rw [List.flatten_cons, WriteItem.tickets_append, ih, List.map_cons, List.sum_cons]
  have hproducer : s.producer.tickets =
      WriteItem.tickets s.producer.leaving + WriteItem.tickets s.producer.coming := by
    cases s.producer <;> simp [Producer.leaving, Producer.coming, Producer.tickets]
  simp only [Run.tickets, Run.queued, WriteItem.tickets_append, hqueue, hproducer]
  abel

/-- An item that has to be sent has its ticket among those of the run. -/
theorem ticket_mem_of_withheld {s : Run σ} {i : WriteItem} (h : s.Withheld i) :
    i.ticket ∈ s.tickets := by
  rw [tickets_eq_queued]
  refine Multiset.mem_add.2 (.inl (Multiset.mem_add.2 ?_))
  rcases h with hi | ⟨id, due, items, hw, hi⟩
  · exact .inl (ticket_mem_tickets hi)
  · right
    have hworker : WriteItem.tickets items ∈ s.workers.map Worker.tickets :=
      List.mem_map.2 ⟨.waiting due items, List.mem_of_getElem? hw, rfl⟩
    rw [← Multiset.sum_coe]
    exact Multiset.mem_join.2 ⟨_, Multiset.mem_coe.2 hworker, ticket_mem_tickets hi⟩

/-- Whether an item is withheld or has its outcome. -/
def Run.PutAside (s : Run σ) (i : WriteItem) : Prop :=
  s.Withheld i ∨ ∃ o ∈ s.outcomes, o.ticket = i.ticket

/-- An item that is put aside has its ticket among those of the run. -/
theorem ticket_mem_of_putAside {s : Run σ} {i : WriteItem} (h : s.PutAside i) :
    i.ticket ∈ s.tickets := by
  rcases h with hi | ⟨o, ho, hticket⟩
  · exact ticket_mem_of_withheld hi
  · rw [← hticket]
    exact Multiset.mem_add.2 (.inr (Multiset.mem_coe.2 (List.mem_map_of_mem ho)))

/-- Whether a worker is with the service for an item. -/
def Run.Calls (s : Run σ) (i : WriteItem) : Prop :=
  ∃ (id : Nat) (items : List WriteItem),
    s.workers[id]? = some (.calling items) ∧ i.token ∈ items.map (·.token)

/-- No worker is with the service for an item that is put aside. -/
theorem not_calls_of_putAside {inputs : List Input} {readings : List Reading} {s : Run σ}
    (h : p.Conserved inputs readings s) {i : WriteItem} (hi : s.PutAside i) : ¬s.Calls i := by
  rintro ⟨id, items, hw, hmem⟩
  -- without the items of the worker, the item is put aside all the same
  have hset := Run.tickets_setWorker hw .idle
  have hrest : (s.setWorker id .idle).PutAside i := by
    refine hi.imp_left fun hi => hi.imp_right ?_
    rintro ⟨other, due, waiting, hwaiting, hi⟩
    have hne : id ≠ other := by
      rintro rfl
      exact nomatch hw.symm.trans hwaiting
    exact ⟨other, due, waiting, (getElem?_setWorker_ne hne s .idle).trans hwaiting, hi⟩
  have htokens := h.tokens
  rw [Worker.tickets_idle, add_zero] at hset
  rw [← hset, Multiset.map_add, Multiset.nodup_add] at htokens
  obtain ⟨j, hj, hji⟩ := List.mem_map.1 hmem
  refine Multiset.disjoint_left.1 htokens.2.2
    (Multiset.mem_map_of_mem _ (ticket_mem_of_putAside hrest)) ?_
  exact Multiset.mem_map.2 ⟨j.ticket, ticket_mem_tickets hj, hji⟩

/-- No two outcomes have the same token. -/
theorem Conserved.outcomes_nodup {inputs : List Input} {readings : List Reading} {s : Run σ}
    (h : p.Conserved inputs readings s) : (s.outcomes.map (·.token)).Nodup := by
  have hle : ItemOutcome.tickets s.outcomes ≤ s.tickets := Multiset.le_add_left _ _
  have hnodup := Multiset.nodup_of_le (Multiset.map_le_map (f := (·.token)) hle) h.tokens
  rwa [ItemOutcome.tickets, Multiset.map_coe, List.map_map, Multiset.coe_nodup] at hnodup

/-! ### Winding down -/

/-- Once all is done, every worker has gone. -/
theorem gone_of_isOver {s : Run σ} (h : s.isOver = true) {id : Nat} {w : Worker}
    (hw : s.workers[id]? = some w) : w = .gone := by
  have hnone : s.hasWorkers = false := by simpa using (Bool.and_eq_true_iff.1 h).2
  have hnot := List.any_eq_false.1 hnone w (List.mem_of_getElem? hw)
  cases w with
  | gone => rfl
  | _ => exact absurd rfl hnot

/-- Once all is done, nothing is withheld. -/
theorem not_withheld_of_isOver {s : Run σ} (htidy : s.Tidy) (hworkers : s.workers ≠ [])
    (h : s.isOver = true) (i : WriteItem) : ¬s.Withheld i := by
  have hproducer : s.producer = .finished := isClosed_eq_true.1 (Bool.and_eq_true_iff.1 h).1
  rintro (hi | ⟨id, due, items, hw, -⟩)
  · have hqueue : s.queue = [] := by
      obtain ⟨w, hw⟩ := List.exists_mem_of_ne_nil _ hworkers
      obtain ⟨id, hid, rfl⟩ := List.mem_iff_getElem.1 hw
      exact (htidy.gone (gone_of_isOver h (List.getElem?_eq_getElem hid) ▸ hw)).2
    rw [Run.queued, hproducer, htidy.finished hproducer, hqueue] at hi
    exact List.not_mem_nil hi
  · cases gone_of_isOver h hw

/-- The outcome of an item that was with the service when the run was cancelled: what its last
answer made of it, unless it would be sent again. -/
def lastOutcome (p : Pipeline σ) (i : WriteItem) (r : SubmitResult) : ItemOutcome :=
  if Submission.isRetried p.options i r then p.cancelledOutcome i
  else Submission.ending p.entity.name p.options i r

/-- An item has one outcome, the given one. -/
def Run.Ends (s : Run σ) (i : WriteItem) (o : ItemOutcome) : Prop :=
  s.outcomes.filter (·.token = i.token) = [o]

/-- An item that has an outcome has no other one: tickets are told apart by their tokens. -/
theorem Conserved.ends {inputs : List Input} {readings : List Reading} {s : Run σ}
    (h : p.Conserved inputs readings s) {i : WriteItem} {o : ItemOutcome} (ho : o ∈ s.outcomes)
    (hticket : o.ticket = i.ticket) : s.Ends i o := by
  have htoken : o.token = i.token := congrArg Ticket.token hticket
  unfold Run.Ends
  rw [← htoken]
  exact filter_eq_singleton h.outcomes_nodup ho

/-- How a cancelled run goes on from one state to another. -/
structure WindsDown (p : Pipeline σ) (s : Run σ) (readings : List Reading) (t : Run σ) :
    Prop where
  /-- The run stays cancelled. -/
  cancelled : t.cancelled = true
  /-- No input is read but one that the producer had asked for. -/
  reads : readings.length ≤ s.producer.asked
  /-- No worker goes to the service. -/
  calls : ∀ (id : Nat) (items : List WriteItem),
    t.workers[id]? = some (.calling items) → s.workers[id]? = some (.calling items)
  /-- What no worker had was never sent. -/
  unsent : ∀ i ∈ s.queued, i.attempts = 0
  /-- What had to be sent, for the first time or again, is not sent. Once all is done, it has failed
  as cancelled, with the attempts that it had. -/
  withheld : ∀ i, s.Withheld i →
    ¬t.Calls i ∧ (t.isOver = true → t.Ends i (p.cancelledOutcome i))
  /-- What was with the service is there still, or it was answered and is not sent again. Once all
  is done, it has ended by that answer, or as cancelled. -/
  answered : ∀ (id : Nat) (items : List WriteItem), s.workers[id]? = some (.calling items) →
    t.workers[id]? = some (.calling items) ∧ t.isOver = false ∨
      ∃ readings' u results v, p.Interleaving s readings' u ∧
        p.submission u items = (.ok results, v) ∧ results.length = items.length ∧
        ∀ i r, (i, r) ∈ items.zip results →
          ¬t.Calls i ∧ (t.isOver = true → t.Ends i (p.lastOutcome i r))
  /-- As long as not all is done, somebody can act, if no task breaks off. -/
  goesOn : t.isOver = false → (∀ a, ¬p.Breaks t a) → ∃ u, p.Acts t u
  /-- All is done in the end, if somebody acts now and then as long as it is not. -/
  finishes : ∀ run : Nat → Run σ, run 0 = t → p.Fair run → ∃ n, (run n).isOver = true

/-- An item that was answered before is put aside in a cancelled run, and ends as it should. -/
theorem putAside_and_ends {inputs : List Input} {readings : List Reading} {s : Run σ}
    (h : p.Conserved inputs readings s) (hp : 0 < p.options.parallelism) {i : WriteItem}
    {r : SubmitResult}
    (hi : if Submission.isRetried p.options i r then
        s.Withheld i ∨ p.cancelledOutcome i ∈ s.outcomes
      else Submission.ending p.entity.name p.options i r ∈ s.outcomes) :
    s.PutAside i ∧ (s.isOver = true → s.Ends i (p.lastOutcome i r)) := by
  unfold lastOutcome
  split
  · rename_i hretried
    rw [if_pos hretried] at hi
    refine ⟨hi.imp_right fun hgiven => ⟨_, hgiven, rfl⟩, fun hover => ?_⟩
    have hnot := not_withheld_of_isOver h.tidy (h.workers_ne_nil hp) hover i
    exact h.ends (hi.resolve_left hnot) rfl
  · rename_i hended
    rw [if_neg hended] at hi
    have hticket := Submission.ticket_ending p.entity.name p.options i r
    exact ⟨.inr ⟨_, hi, hticket⟩, fun _ => h.ends hi hticket⟩

/-- **Cancelled runs wind down.** From any state in which a run is cancelled, however the steps of
the producer, the workers and the service are ordered from there: nothing is sent any more, and
whatever was not ended by the last answer about it fails once as cancelled, until all is done. -/
theorem windsDown_of_interleaving {w : World σ} {cancelAt : Option Nat} {inputs : List Input}
    {readings readings' : List Reading} {s t : Run σ}
    (hoptions : p.options.validate = .ok ())
    (hrun : p.Interleaving { p.start w inputs with cancelAt } readings s)
    (hcancelled : s.cancelled = true) (hrest : p.Interleaving s readings' t) :
    p.WindsDown s readings' t := by
  have hp := parallelism_pos hoptions
  have hs := conserved_interleaving hrun
  have ht := hs.interleaving hrest
  refine ⟨cancelled_interleaving hcancelled hrest, ?_,
    fun id items => calling_interleaving hcancelled hrest, attempts_of_queued hrun, ?_, ?_,
    exists_acts hp, fun run _ hfair => hfair.isOver⟩
  · exact (Nat.le_add_right _ _).trans (asked_interleaving hcancelled hrest)
  · intro i hi
    have hgiven := withheld_interleaving hcancelled hs hp hrest (.inl hi)
    -- at the end nothing is withheld any more, so the item has failed as cancelled
    refine ⟨not_calls_of_putAside ht (hgiven.imp_right fun ho => ⟨_, ho, rfl⟩), fun hover => ?_⟩
    have hnot := not_withheld_of_isOver ht.tidy (ht.workers_ne_nil hp) hover i
    exact ht.ends (hgiven.resolve_left hnot) rfl
  · intro id items hw
    rcases answered_interleaving hcancelled hs hp hrest hw with
      hstill | ⟨readings'', u, results, v, hbefore, hcall, hanswers⟩
    · refine .inl ⟨hstill, Bool.eq_false_iff.2 fun hover => ?_⟩
      exact nomatch gone_of_isOver hover hstill
    · refine .inr ⟨readings'', u, results, v, hbefore, hcall, length_of_submission hcall, ?_⟩
      intro i r hi
      obtain ⟨haside, hends⟩ := putAside_and_ends ht hp (hanswers i r hi)
      exact ⟨not_calls_of_putAside ht haside, hends⟩

/-- A pipeline that sends one note at a time, and twice at most, into a service that refuses every
request. -/
def patient : Pipeline Unit where
  service := refusing
  entity := .ofName "note"
  options := { WriteOptions.standard with batchSize := 1, retries := 1, transientCodes := [1] }
  gap := 0
  cancels := fun _ => false

/-- A run that is cancelled while one note waits to be sent again and another one is in the
queue. -/
theorem windsDown_of_interleaving_patient :
    ∃ readings s t,
      patient.Interleaving
        { patient.start ⟨(), []⟩ [⟨.ofList []⟩, ⟨.ofList []⟩] with cancelAt := none } readings s ∧
      s.queued.map (·.token) = [2] ∧ t.isOver = true ∧
      t.outcomes.map (fun o => (o.token, o.attempts)) = [(2, 0), (1, 1)] ∧
      patient.WindsDown s [] t := by
  have h₀ : patient.Interleaving
      { patient.start ⟨(), []⟩ [⟨.ofList []⟩, ⟨.ofList []⟩] with cancelAt := none }
      [] _ := .start
  have h₁ := h₀.next (.read (.inl ⟨rfl, rfl⟩) rfl rfl nofun)
  have h₂ := h₁.next (.produce rfl rfl)
  have h₃ := h₂.next (.produce rfl rfl)
  have h₄ := h₃.next (.receive (Run.worker_of_singleton rfl) rfl)
  have h₅ := h₄.next (.answer (Run.worker_of_singleton rfl) rfl)
  have h₆ := h₅.next (.produce rfl rfl)
  have h₇ := h₆.next (.read (.inl ⟨rfl, rfl⟩) rfl rfl nofun)
  have h₈ := h₇.next (.produce rfl rfl)
  have h₉ := h₈.next (.produce rfl rfl)
  have h := h₉.next (.cancel _)
  -- from here on the run is cancelled
  have hrest : ∀ {s t : Run Unit} {readings : List Reading},
      patient.Interleaving s readings t → patient.Interleaving t [] t := fun _ => .start
  have r₁ := (hrest h).next (.wake (Run.worker_of_singleton rfl))
  have r₂ := r₁.next (.receive (Run.worker_of_singleton rfl) rfl)
  have r₃ := r₂.next (.produce rfl rfl)
  have r₄ := r₃.next (.produce rfl rfl)
  have r := r₄.next (.receive (Run.worker_of_singleton rfl) rfl)
  exact ⟨_, _, _, h, rfl, rfl, rfl, windsDown_of_interleaving rfl h rfl r⟩

end RecordService.Pipeline
