import RecordService.Proofs.Pipeline.Conservation

namespace RecordService.Pipeline

/-!
# The items that are still to be answered

Between the classification and the answer of the service, items are with the producer, in the
open batch, in the queue or with a worker. Here they are listed in the order in which a single
worker sends them, as they will be when they are sent.

* `Run.pending`: the items on their way.
* `pending_passing`, `pending_receive`, `pending_settled`, `pending_wake`: what the actors do
  brings no items in.
* `forall_pending_step`: what is true of all items that are read is true of all that are sent.
-/

variable {σ : Type} {p : Pipeline σ}

/-! ### Where items are -/

/-- The batch that the producer is about to put into the queue. -/
def Producer.leaving : Producer → List WriteItem
  | .sending batch _ => batch
  | .closing batch => batch
  | _ => []

/-- The items that the producer has yet to put into a batch. -/
def Producer.coming : Producer → List WriteItem
  | .filling items => items
  | .sending _ items => items
  | _ => []

/-- The items of a worker, as they are when the service answers. -/
def Worker.pending : Worker → List WriteItem
  | .calling items => items
  | .waiting _ items => items.map WriteItem.sent
  | _ => []

namespace Run

/-- The items that no worker has, in order. -/
def queued (s : Run σ) : List WriteItem :=
  s.queue.flatten ++ (s.producer.leaving ++ (s.batch ++ s.producer.coming))

/-- The items that are still to be answered, as they are when the service answers. -/
def pending (s : Run σ) : List WriteItem :=
  s.workers.flatMap Worker.pending ++ s.queued.map WriteItem.sent

/-- What is pending when a worker turns to something else was pending before, or is what it turned
to. -/
theorem mem_pending_setWorker {s : Run σ} {id : Nat} {w : Worker} {i : WriteItem}
    (h : i ∈ (s.setWorker id w).pending) : i ∈ w.pending ∨ i ∈ s.pending := by
  rcases List.mem_append.1 h with h | h
  · obtain ⟨w', hw', hi⟩ := List.mem_flatMap.1 h
    rcases List.mem_or_eq_of_mem_set hw' with hw' | rfl
    · exact .inr (List.mem_append_left _ (List.mem_flatMap.2 ⟨w', hw', hi⟩))
    · exact .inl hi
  · exact .inr (List.mem_append_right _ h)

end Run

/-- What a worker has in hand is pending. -/
theorem mem_pending_of_worker {s : Run σ} {id : Nat} {w : Worker} {i : WriteItem}
    (hw : s.workers[id]? = some w) (h : i ∈ w.pending) : i ∈ s.pending :=
  List.mem_append_left _ (List.mem_flatMap.2 ⟨w, List.mem_of_getElem? hw, h⟩)

/-! ### What the actors do -/

/-- Nobody is left to take batches, or the run is cancelled. -/
def Run.GivesUp (s : Run σ) : Prop :=
  s.cancelled = true ∨ s.hasWorkers = false

/-- A batch that leaves the producer goes to the end of the queue, or it is given up. -/
theorem queue_sendBatch (p : Pipeline σ) (s : Run σ) (batch : List WriteItem) :
    (p.sendBatch s batch).queue.flatten = s.queue.flatten ++ batch ∧
        (p.sendBatch s batch).outcomes = s.outcomes ∨
      s.GivesUp ∧ (p.sendBatch s batch).queue = s.queue := by
  unfold sendBatch
  split
  · refine .inl ⟨?_, rfl⟩
    rw [List.flatten_append, List.flatten_singleton]
  · rename_i hworkers
    exact .inr ⟨.inr (Bool.eq_false_iff.2 hworkers), rfl⟩

/-- Sending a batch leaves the open batch. -/
theorem batch_sendBatch (p : Pipeline σ) (s : Run σ) (batch : List WriteItem) :
    (p.sendBatch s batch).batch = s.batch := by
  unfold sendBatch
  split <;> rfl

/-- A producer that reads has only the open batch. -/
theorem queued_of_idle {s : Run σ}
    (h : s.producer = .reading ∨ ∃ due, s.producer = .awaiting due) :
    s.queued = s.queue.flatten ++ s.batch := by
  rcases h with h | ⟨due, h⟩
  · rw [Run.queued, h]
    exact congrArg _ (List.append_nil _)
  · rw [Run.queued, h]
    exact congrArg _ (List.append_nil _)

/-- The producer keeps the items in order and puts none out, unless they are given up. -/
theorem queued_passing {s t : Run σ} (h : p.Passing s t) (htidy : s.Tidy) :
    t.queued = s.queued ∧ t.outcomes = s.outcomes ∨
      s.GivesUp ∧ t.queued.Sublist s.queued := by
  cases h with
  | leave hidle =>
    rw [queued_of_idle hidle]
    unfold leave
    split
    · rename_i hempty
      left
      rw [List.isEmpty_iff.1 hempty]
      exact ⟨rfl, rfl⟩
    · split
      · rename_i hcancelled
        have ht : (p.finish (s.failItems p.entity.name s.batch (.of .cancelled))).queued =
            s.queue.flatten := List.append_nil _
        rw [ht]
        exact .inr ⟨.inl hcancelled, List.sublist_append_left _ _⟩
      · left
        simp [Run.queued, Producer.leaving, Producer.coming]
  | ask due hreading =>
    left
    simp [Run.queued, Run.setProducer, hreading, Producer.leaving, Producer.coming]
  | resume hfilling =>
    left
    simp [Run.queued, Run.setProducer, hfilling, Producer.leaving, Producer.coming]
  | fill hfilling =>
    left
    unfold fill
    dsimp only
    split
    · simp [Run.queued, hfilling, Producer.leaving, Producer.coming]
    · simp [Run.queued, hfilling, Producer.leaving, Producer.coming]
  -- the batch is sent from before what is open, so it goes to the end of the queue in order
  | @send batch rest hsending =>
    have hs : s.queued = s.queue.flatten ++ (batch ++ (s.batch ++ rest)) := by
      rw [Run.queued, hsending]
      rfl
    have ht : ((p.sendBatch s batch).setProducer (.filling rest)).queued =
        (p.sendBatch s batch).queue.flatten ++ (s.batch ++ rest) := by
      rw [← p.batch_sendBatch s batch]
      rfl
    rw [hs, ht]
    rcases p.queue_sendBatch s batch with ⟨hqueue, houtcomes⟩ | ⟨hgives, hqueue⟩
    · exact .inl ⟨by rw [hqueue, List.append_assoc], houtcomes⟩
    · refine .inr ⟨hgives, ?_⟩
      rw [hqueue]
      exact (List.sublist_append_right _ _).append_left _
  | @close batch hclosing =>
    have hs : s.queued = s.queue.flatten ++ batch := by
      rw [Run.queued, hclosing, htidy.closing batch hclosing]
      exact congrArg _ (List.append_nil _)
    have ht : (p.finish (p.sendBatch s batch)).queued = (p.sendBatch s batch).queue.flatten :=
      List.append_nil _
    rw [hs, ht]
    rcases p.queue_sendBatch s batch with ⟨hqueue, houtcomes⟩ | ⟨hgives, hqueue⟩
    · exact .inl ⟨hqueue, houtcomes⟩
    · refine .inr ⟨hgives, ?_⟩
      rw [hqueue]
      exact List.sublist_append_left _ _

/-- What the producer does by itself leaves the workers to what they are doing. -/
theorem workers_passing {s t : Run σ} (h : p.Passing s t) : t.workers = s.workers := by
  cases h with
  | leave =>
    unfold leave
    split
    · rfl
    · split <;> rfl
  | ask => rfl
  | resume => rfl
  | fill =>
    unfold fill
    dsimp only
    split <;> rfl
  | send => exact workers_sendBatch s _
  | close => exact workers_sendBatch s _

/-- The items that an input was classified to. -/
def Reading.items (r : Reading) : List WriteItem :=
  match r.result with
  | .ok items => items
  | .error _ => []

/-- The items of an input that is read come last. -/
theorem queued_read {s t : Run σ} {r : Reading} (h : p.Step s (some r) t) :
    t.queued = s.queued ++ r.items ∧ t.workers = s.workers := by
  cases h with
  | @read u i rest result last hread hinputs hcall hresult =>
    obtain ⟨world, cancelled, rfl⟩ := eq_of_classification hcall
    rw [queued_of_idle (hread.imp_left And.left), List.append_assoc]
    cases result with
    | ok items => exact ⟨rfl, rfl⟩
    | error e =>
      cases e with
      | breach => exact absurd rfl hresult
      | error => exact ⟨rfl, rfl⟩

/-- Items to be sent again are among those that were answered. -/
theorem retry_settle (entity : String) (o : WriteOptions) (items : List WriteItem)
    (results : List SubmitResult) :
    (Submission.settle entity o items results).retry.Sublist items := by
  induction items generalizing results with
  | nil => exact List.Sublist.refl _
  | cons i items ih =>
    cases results with
    | nil => exact List.nil_sublist _
    | cons r results =>
      have hone : (Submission.settleOne entity o i r).retry.Sublist [i] := by
        unfold Submission.settleOne
        split
        · exact List.nil_sublist _
        · split
          · exact List.Sublist.refl _
          · exact List.nil_sublist _
      exact hone.append (ih results)

/-- The items that are left with a worker after an answer are among those that were answered. -/
theorem mem_pending_settled {s : Run σ} {id : Nat} {r : Submission.Settlement} {i : WriteItem}
    (h : i ∈ (p.settled s id r).pending) :
    i ∈ r.retry.map WriteItem.sent ∨ i ∈ s.pending := by
  unfold settled at h
  dsimp only at h
  split at h
  · exact (Run.mem_pending_setWorker h).imp_left fun h => nomatch h
  · exact Run.mem_pending_setWorker h

/-- A batch that is taken was in the queue. -/
theorem mem_pending_receive {s : Run σ} {id : Nat} {i : WriteItem}
    (h : i ∈ (p.receive s id).pending) : i ∈ s.pending := by
  unfold receive at h
  cases hqueue : s.queue with
  | nil =>
    rw [hqueue] at h
    exact (Run.mem_pending_setWorker h).elim (fun h => nomatch h) (fun h => h)
  | cons batch queue =>
    rw [hqueue] at h
    have hqueued : s.queued = batch ++ ({ s with queue } : Run σ).queued := by
      rw [Run.queued, hqueue, List.flatten_cons, List.append_assoc]
      rfl
    have hrest : ∀ i ∈ ({ s with queue } : Run σ).pending, i ∈ s.pending := by
      intro i hi
      rw [Run.pending, hqueued, List.map_append]
      rcases List.mem_append.1 hi with hi | hi
      · exact List.mem_append_left _ hi
      · exact List.mem_append_right _ (List.mem_append_right _ hi)
    dsimp only at h
    split at h
    · exact hrest i h
    · rcases Run.mem_pending_setWorker h with hi | hi
      · rw [Run.pending, hqueued, List.map_append]
        exact List.mem_append_right _ (List.mem_append_left _ hi)
      · exact hrest i hi

/-- **What is sent was read.** What is true of the items that are still to be answered, and of
those that are read in a step, is true of the items that are to be answered after it, if it does
not hang on the number of attempts. -/
theorem forall_pending_step {P : WriteItem → Prop} (hsent : ∀ i, P i → P i.sent) {s t : Run σ}
    {r : Option Reading} (hstep : p.Step s r t) (htidy : s.Tidy)
    (h : ∀ i ∈ s.pending, P i) (hread : ∀ r' ∈ r, ∀ i ∈ r'.items, P i) :
    ∀ i ∈ t.pending, P i := by
  -- what a worker has is with the service as it is, what is queued will be sent first
  have hworker : ∀ {id : Nat} {w : Worker}, s.workers[id]? = some w → ∀ i ∈ w.pending, P i :=
    fun hw i hi => h i (mem_pending_of_worker hw hi)
  have hqueued : ∀ i ∈ s.queued, P i.sent :=
    fun i hi => h _ (List.mem_append_right _ (List.mem_map_of_mem hi))
  cases r with
  | some r =>
    obtain ⟨ht, hworkers⟩ := queued_read hstep
    intro i hi
    rw [Run.pending, ht, hworkers, List.map_append, ← List.append_assoc] at hi
    rcases List.mem_append.1 hi with hi | hi
    · exact h i hi
    · obtain ⟨j, hj, rfl⟩ := List.mem_map.1 hi
      exact hsent j (hread r rfl j hj)
  | none =>
    intro i hi
    cases hstep with
    | pass => exact h i hi
    | cancel => exact h i hi
    | produce hdue hnone =>
      have hpassing := passing_produce hdue hnone
      rw [Run.pending, workers_passing hpassing] at hi
      rcases List.mem_append.1 hi with hi | hi
      · exact h i (List.mem_append_left _ hi)
      · obtain ⟨j, hj, rfl⟩ := List.mem_map.1 hi
        rcases queued_passing hpassing htidy with ⟨heq, -⟩ | ⟨-, hsub⟩
        · exact hqueued j (heq ▸ hj)
        · exact hqueued j (hsub.subset hj)
    | receive hw => exact h i (mem_pending_receive hi)
    | @answer u id items results hw hcall =>
      obtain ⟨world, cancelled, rfl⟩ := eq_of_submission hcall
      rcases mem_pending_settled hi with hi | hi
      · obtain ⟨j, hj, rfl⟩ := List.mem_map.1 hi
        exact hsent j (hworker hw j ((retry_settle _ _ _ _).subset hj))
      · exact h i hi
    | @wake id due items hw =>
      split at hi
      · exact (Run.mem_pending_setWorker hi).elim (fun h => nomatch h) (h i)
      · exact (Run.mem_pending_setWorker hi).elim (hworker hw i) (h i)

end RecordService.Pipeline
