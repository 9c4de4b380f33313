import RecordService.Proofs.Pipeline.AtMostOnce
import RecordService.Proofs.Pipeline.BatchSize

namespace RecordService.Pipeline

/-!
# Batches part the items

The producer gathers the items of the inputs in an open batch. As soon as that is full it is handed
over and another one is opened, maybe in the middle of the items of an input; what is left in the
end is handed over as it is. So the batches, one after the other, are the items of all inputs in
their order, cut at every multiple of the size of a batch.

* `Producer.handsOver`, `queue_step`: a batch that is handed over, and what becomes of it.
* `Dispatching`: the runs in any order of steps, with the inputs that were read and the batches that
  were handed over.
* `Ascending`: the order of the tokens.
* `Stage`, `Batched`, `batched_of_dispatching`: what every step keeps.
* `Parted`, `parted_of_dispatching`: how the batches of a run part its items.
-/

variable {σ : Type} {p : Pipeline σ}

/-! ### Batches that are handed over -/

/-- The batch that the producer has handed over when it goes on from one thing to another. -/
def Producer.handsOver : Producer → Producer → List (List WriteItem)
  | .sending batch _, .filling _ => [batch]
  | .closing batch, .finished => [batch]
  | _, _ => []

/-- A producer that stays at what it does hands nothing over. -/
@[simp] theorem Producer.handsOver_self (producer : Producer) :
    producer.handsOver producer = [] := by
  cases producer <;> rfl

/-- Whether the producer gathers items in the open batch. -/
def Producer.gathers : Producer → Bool
  | .reading => true
  | .awaiting _ => true
  | .filling _ => true
  | _ => false

/-- A producer that gathers has nothing to hand over yet, whatever it does next. -/
theorem Producer.handsOver_of_gathers {producer : Producer} (h : producer.gathers = true)
    (next : Producer) : producer.handsOver next = [] := by
  cases producer with
  | sending => cases h
  | closing => cases h
  | _ => rfl

/-- Between two inputs the producer gathers. -/
theorem gathers_of_idle {s : Run σ}
    (h : s.producer = .reading ∨ ∃ due, s.producer = .awaiting due) :
    s.producer.gathers = true := by
  rcases h with hreading | ⟨due, hawaiting⟩
  · rw [hreading]
    rfl
  · rw [hawaiting]
    rfl

/-- The runs that come of any order of steps, with the inputs that were read in them and the batches
that the producer has handed over. The workers may break off, the producer does not. -/
inductive Dispatching (p : Pipeline σ) (s : Run σ) :
    List Reading → List (List WriteItem) → Run σ → Prop where
  | start : Dispatching p s [] [] s
  | next {readings : List Reading} {batches : List (List WriteItem)} {t u : Run σ}
      {r : Option Reading} (run : Dispatching p s readings batches t) (step : p.Step t r u) :
      Dispatching p s (readings ++ r.toList) (batches ++ t.producer.handsOver u.producer) u
  | broke {readings : List Reading} {batches : List (List WriteItem)} {t : Run σ} {id : Nat}
      (run : Dispatching p s readings batches t) (hbreaks : p.Breaks t (.worker id)) :
      Dispatching p s readings batches (p.act t (.worker id))

/-! ### What the others leave alone -/

/-- What the producer works on. -/
def Run.production (s : Run σ) : List Input × Nat × Producer × List WriteItem :=
  (s.inputs, s.lastToken, s.producer, s.batch)

/-- A worker that takes a batch takes it off the queue, and leaves the producer alone. -/
theorem production_receive (s : Run σ) (id : Nat) :
    (p.receive s id).production = s.production ∧ (p.receive s id).queue <:+ s.queue := by
  unfold receive
  cases hqueue : s.queue with
  | nil =>
    refine ⟨rfl, ?_⟩
    show s.queue <:+ []
    rw [hqueue]
  | cons batch queue =>
    dsimp only
    split
    · exact ⟨rfl, List.suffix_cons batch queue⟩
    · exact ⟨rfl, List.suffix_cons batch queue⟩

/-- A worker that settles an answer leaves the queue and the producer alone. -/
theorem production_settled (s : Run σ) (id : Nat) (r : Submission.Settlement) :
    (p.settled s id r).production = s.production ∧ (p.settled s id r).queue = s.queue := by
  unfold settled
  dsimp only
  split <;> exact ⟨rfl, rfl⟩

/-- A step in which no input is read is one of the producer, or it leaves alone what the producer
works on and puts nothing into the queue. -/
theorem production_step {s t : Run σ} (hstep : p.Step s none t) :
    (p.upcoming? s = none ∧ p.Passing s t ∧ t = p.produce s) ∨
      t.production = s.production ∧ t.queue <:+ s.queue := by
  cases hstep with
  | pass => exact .inr ⟨rfl, List.suffix_rfl⟩
  | cancel => exact .inr ⟨rfl, List.suffix_rfl⟩
  | produce hdue hnone => exact .inl ⟨hnone, passing_produce hdue hnone, rfl⟩
  | receive => exact .inr (production_receive s _)
  | @answer u id items results hw hcall =>
    obtain ⟨world, cancelled, rfl⟩ := eq_of_submission hcall
    obtain ⟨hproduction, hqueue⟩ := production_settled (p := p) { s with world, cancelled } id
      (Submission.settle p.entity.name p.options items results)
    exact .inr ⟨hproduction, List.IsSuffix.trans ⟨[], hqueue⟩ List.suffix_rfl⟩
  | wake =>
    right
    split <;> exact ⟨rfl, List.suffix_rfl⟩

/-- A worker that breaks off leaves it alone, too. -/
theorem production_broke {s : Run σ} {id : Nat} (hbreaks : p.Breaks s (.worker id)) :
    (p.act s (.worker id)).production = s.production ∧
      (p.act s (.worker id)).queue = s.queue ∧
      ((p.act s (.worker id)).cancelled = false → s.cancelled = false) := by
  obtain ⟨items, hw, e, he⟩ := hbreaks
  have hact : p.act s (.worker id) =
      (((p.submission s items).2.setWorker id .gone).note breachLine) := by
    show p.work s id = _
    have hanswer : p.work s id =
        p.submitted (p.submission s items).2 id items (p.submission s items).1 := by
      rw [work, hw]
      rfl
    rw [hanswer, he]
    rfl
  have hnot : (p.submission s items).2.cancelled = false → s.cancelled = false := by
    intro h
    exact (Bool.or_eq_false_iff.1 h).1
  obtain ⟨world, cancelled, hafter⟩ : ∃ world cancelled,
      (p.submission s items).2 = { s with world, cancelled } := p.call_snd s _
  rw [hafter] at hact hnot
  rw [hact]
  exact ⟨rfl, rfl, hnot⟩

/-- A producer that is left alone hands nothing over. -/
theorem handsOver_of_production {s t : Run σ} (h : t.production = s.production) :
    s.producer.handsOver t.producer = [] := by
  have hproducer : t.producer = s.producer := congrArg (·.2.2.1) h
  rw [hproducer, Producer.handsOver_self]

/-! ### The queue -/

/-- **What is handed over.** A batch that is handed over goes to the end of the queue, or its items
fail if no worker is there to take it. Nothing else is put into the queue. -/
theorem queue_step {s t : Run σ} {r : Option Reading} (hstep : p.Step s r t) :
    (s.producer.handsOver t.producer = [] ∧ t.queue <:+ s.queue) ∨
      ∃ batch, s.producer.handsOver t.producer = [batch] ∧
        t.queue = (p.sendBatch s batch).queue ∧ t.outcomes = (p.sendBatch s batch).outcomes := by
  -- only a producer that sends a batch, or its last one, hands something over
  cases r with
  | some r =>
    left
    cases hstep with
    | @read u i rest result last hread hinputs hcall hresult =>
      obtain ⟨world, cancelled, rfl⟩ := eq_of_classification hcall
      refine ⟨Producer.handsOver_of_gathers (gathers_of_idle (hread.imp_left And.left)) _, ?_⟩
      cases result with
      | ok items => exact List.suffix_rfl
      | error e =>
        cases e with
        | breach => exact absurd rfl hresult
        | error => exact List.suffix_rfl
  | none =>
    rcases production_step hstep with ⟨-, hpassing, -⟩ | ⟨hproduction, hqueue⟩
    · cases hpassing with
      | leave hidle =>
        left
        refine ⟨Producer.handsOver_of_gathers (gathers_of_idle hidle) _, ?_⟩
        unfold leave
        split
        · exact List.suffix_rfl
        · split <;> exact List.suffix_rfl
      | ask due hreading =>
        left
        rw [hreading]
        exact ⟨rfl, List.suffix_rfl⟩
      | resume hfilling =>
        left
        rw [hfilling]
        exact ⟨rfl, List.suffix_rfl⟩
      | fill hfilling =>
        left
        rw [hfilling]
        unfold fill
        dsimp only
        split <;> exact ⟨rfl, List.suffix_rfl⟩
      | send hsending =>
        right
        rw [hsending]
        exact ⟨_, rfl, rfl, rfl⟩
      | close hclosing =>
        right
        rw [hclosing]
        exact ⟨_, rfl, rfl, rfl⟩
    · exact .inl ⟨handsOver_of_production hproduction, hqueue⟩

/-! ### Tokens -/

/-- Items are classified input by input. -/
theorem classifiedItems_append (readings : List Reading) (r : Reading) :
    classifiedItems (readings ++ [r]) = classifiedItems readings ++ r.items := by
  rw [classifiedItems, List.flatMap_append, List.flatMap_singleton]
  rfl

/-- The tokens of the items ascend, and were all given by now. -/
structure Ascending (readings : List Reading) (last : Nat) : Prop where
  tokens : ((classifiedItems readings).map (·.token)).Pairwise (· < ·)
  given : ∀ i ∈ classifiedItems readings, i.token ≤ last

/-- The items of an input that is read have ascending tokens, which come after all that were given
before. -/
theorem Ascending.read {readings : List Reading} {s t : Run σ} {r : Reading}
    (h : Ascending readings s.lastToken) (hstep : p.Step s (some r) t) :
    Ascending (readings ++ [r]) t.lastToken := by
  obtain ⟨hindex, -, hextent, w, w', hrun⟩ := extent_read hstep
  obtain ⟨hle, -, hnew⟩ := tokens_read hstep
  have hitems : (r.items.map (·.token)).Pairwise (· < ·) := by
    obtain ⟨-, hitems⟩ := Classifier.items_eq_ok hrun
    unfold Reading.items
    cases hresult : r.result with
    | error e => exact List.Pairwise.nil
    | ok items =>
      obtain ⟨-, ⟨n, htokens, -⟩, -⟩ := hitems items hresult
      dsimp only
      rw [htokens]
      exact List.pairwise_lt_range'
  have hlater : ∀ i ∈ r.items, s.lastToken < i.token ∧ i.token ≤ t.lastToken := by
    intro i hi
    refine hnew i.ticket ?_
    unfold Reading.tickets
    unfold Reading.items at hi
    cases hresult : r.result with
    | error e =>
      rw [hresult] at hi
      exact nomatch hi
    | ok items =>
      rw [hresult] at hi
      exact Multiset.mem_coe.2 (List.mem_map_of_mem hi)
  constructor
  · rw [classifiedItems_append, List.map_append, List.pairwise_append]
    -- in order before, in order within the input, and what is new comes after what was given
    refine ⟨h.tokens, hitems, ?_⟩
    intro a ha b hb
    obtain ⟨i, hi, rfl⟩ := List.mem_map.1 ha
    obtain ⟨j, hj, rfl⟩ := List.mem_map.1 hb
    exact Nat.lt_of_le_of_lt (h.given i hi) (hlater j hj).1
  · intro i hi
    rw [classifiedItems_append] at hi
    rcases List.mem_append.1 hi with hi | hi
    · exact (h.given i hi).trans hle
    · exact (hlater i hi).2

/-- Tokens ascend in any order of steps, since only reading gives new ones. -/
theorem ascending_of_dispatching {w : World σ} {cancelAt : Option Nat} {inputs : List Input}
    {readings : List Reading} {batches : List (List WriteItem)} {t : Run σ}
    (h : p.Dispatching { p.start w inputs with cancelAt } readings batches t) :
    Ascending readings t.lastToken := by
  induction h with
  | start => exact ⟨List.Pairwise.nil, fun i hi => nomatch hi⟩
  | @next readings batches t u r run hstep ih =>
    cases r with
    | some r => exact ih.read hstep
    | none =>
      have hlast : u.lastToken = t.lastToken := congrArg (·.2.2.1) (extent_step hstep)
      rw [Option.toList_none, List.append_nil, hlast]
      exact ih
  | @broke readings batches t id run hbreaks ih =>
    have hlast : (p.act t (.worker id)).lastToken = t.lastToken :=
      congrArg (·.2.1) (production_broke hbreaks).1
    rw [hlast]
    exact ih

/-! ### The open batch -/

/-- What the producer is about to do with the open batch, after some batches that it has handed
over. -/
inductive Stage (size : Nat) (batches : List (List WriteItem)) :
    Producer → List WriteItem → Prop where
  /-- The open batch has room. -/
  | gathering {producer : Producer} {batch : List WriteItem}
      (hproducer : producer.gathers = true) (hfull : ∀ b ∈ batches, b.length = size)
      (hroom : batch.length < size) : Stage size batches producer batch
  /-- A full batch is handed over. -/
  | sending {batch items : List WriteItem} (hfull : ∀ b ∈ batches, b.length = size)
      (hbatch : batch.length = size) : Stage size batches (.sending batch items) []
  /-- What is left is handed over. -/
  | closing {batch : List WriteItem} (hfull : ∀ b ∈ batches, b.length = size) (hne : batch ≠ [])
      (hroom : batch.length < size) : Stage size batches (.closing batch) []
  /-- Only the last batch may have room. -/
  | finished (hfull : ∀ b ∈ batches.dropLast, b.length = size)
      (hfits : ∀ b ∈ batches, b ≠ [] ∧ b.length ≤ size) : Stage size batches .finished []

/-- The items that the producer has yet to hand over. -/
def Run.held (s : Run σ) : List WriteItem :=
  s.producer.leaving ++ (s.batch ++ s.producer.coming)

section

variable {s t : Run σ} {batches : List (List WriteItem)}

/-- A batch that is full is not empty. -/
theorem fits_of_full {size : Nat} (hsize : 0 < size) (hfull : ∀ b ∈ batches, b.length = size) :
    ∀ b ∈ batches, b ≠ [] ∧ b.length ≤ size := by
  intro b hb
  have hlength := hfull b hb
  exact ⟨List.ne_nil_of_length_pos (hlength ▸ hsize), hlength.le⟩

/-- A producer that gathers has room in the open batch. -/
theorem Stage.of_gathers {size : Nat} {producer : Producer} {batch : List WriteItem}
    (h : Stage size batches producer batch) (hgathers : producer.gathers = true) :
    (∀ b ∈ batches, b.length = size) ∧ batch.length < size := by
  cases h with
  | gathering _ hfull hroom => exact ⟨hfull, hroom⟩
  | sending => cases hgathers
  | closing => cases hgathers
  | finished => cases hgathers

/-- Between two inputs the producer holds the open batch, and nothing else. -/
theorem held_of_idle (hidle : s.producer = .reading ∨ ∃ due, s.producer = .awaiting due) :
    s.held = s.batch := by
  rcases hidle with hproducer | ⟨due, hproducer⟩ <;>
    simp [Run.held, hproducer, Producer.leaving, Producer.coming]

/-- The open batch is filled until it has no room, handed over, and the last one as it is. -/
theorem Stage.passing (h : Stage p.options.batchSize batches s.producer s.batch)
    (hsize : 0 < p.options.batchSize) (hpassing : p.Passing s t) (hnot : s.cancelled = false) :
    Stage p.options.batchSize (batches ++ s.producer.handsOver t.producer) t.producer t.batch := by
  cases hpassing with
  | leave hidle =>
    have hgathers := gathers_of_idle hidle
    obtain ⟨hfull, hroom⟩ := h.of_gathers hgathers
    rw [Producer.handsOver_of_gathers hgathers, List.append_nil]
    unfold leave
    split
    · exact .finished (fun b hb => hfull b (List.mem_of_mem_dropLast hb)) (fits_of_full hsize hfull)
    · rename_i hsome
      rw [if_neg (by simp [hnot])]
      exact .closing hfull (fun hnil => hsome (List.isEmpty_iff.2 hnil)) hroom
  | ask due hreading =>
    rw [hreading] at h ⊢
    obtain ⟨hfull, hroom⟩ := h.of_gathers rfl
    rw [Producer.handsOver_of_gathers rfl, List.append_nil]
    exact .gathering rfl hfull hroom
  | resume hfilling =>
    rw [hfilling] at h ⊢
    obtain ⟨hfull, hroom⟩ := h.of_gathers rfl
    rw [Producer.handsOver_of_gathers rfl, List.append_nil]
    exact .gathering rfl hfull hroom
  | @fill i rest hfilling =>
    rw [hfilling] at h ⊢
    obtain ⟨hfull, hroom⟩ := h.of_gathers rfl
    rw [Producer.handsOver_of_gathers rfl, List.append_nil]
    have hlength : (s.batch ++ [i]).length = s.batch.length + 1 := List.length_append
    unfold fill
    dsimp only
    split
    · -- there was room for one item only, so the batch is full, and not more than that
      exact .sending hfull (by omega)
    · rename_i hspare
      exact .gathering rfl hfull (Nat.lt_of_not_le hspare)
  | @send batch rest hsending =>
    rw [hsending] at h ⊢
    have hopen : ((p.sendBatch s batch).setProducer (.filling rest)).batch = s.batch :=
      p.batch_sendBatch s batch
    rw [hopen]
    generalize s.batch = opened at h
    cases h with
    | gathering hproducer => exact nomatch hproducer
    | sending hfull hbatch =>
      refine .gathering rfl ?_ hsize
      exact List.forall_mem_append.2 ⟨hfull, List.forall_mem_singleton.2 hbatch⟩
  | @close batch hclosing =>
    rw [hclosing] at h ⊢
    generalize s.batch = opened at h
    cases h with
    | gathering hproducer => exact nomatch hproducer
    | closing hfull hne hroom =>
      show Stage p.options.batchSize (batches ++ [batch]) .finished []
      -- the last batch may have room, and is the only one
      refine .finished ?_ ?_
      · rw [List.dropLast_concat]
        exact hfull
      · intro b hb
        rcases List.mem_append.1 hb with hb | hb
        · exact fits_of_full hsize hfull b hb
        · rw [List.mem_singleton.1 hb]
          exact ⟨hne, hroom.le⟩

/-- Between two inputs no item is lost, and they keep their order. -/
theorem held_passing (h : Stage p.options.batchSize batches s.producer s.batch)
    (hpassing : p.Passing s t) (hnot : s.cancelled = false) :
    (s.producer.handsOver t.producer).flatten ++ t.held = s.held := by
  cases hpassing with
  | leave hidle =>
    rw [Producer.handsOver_of_gathers (gathers_of_idle hidle), List.flatten_nil, List.nil_append,
      held_of_idle hidle]
    unfold leave
    split
    · rename_i hempty
      rw [List.isEmpty_iff.1 hempty]
      rfl
    · rw [if_neg (by simp [hnot])]
      simp [Run.held, Producer.leaving, Producer.coming]
  | ask due hreading =>
    simp [Run.held, Run.setProducer, hreading, Producer.handsOver, Producer.leaving,
      Producer.coming]
  | resume hfilling =>
    simp [Run.held, Run.setProducer, hfilling, Producer.handsOver, Producer.leaving,
      Producer.coming]
  | fill hfilling =>
    unfold fill
    dsimp only
    split <;> simp [Run.held, hfilling, Producer.handsOver, Producer.leaving, Producer.coming]
  | @send batch rest hsending =>
    have hopen : ((p.sendBatch s batch).setProducer (.filling rest)).batch = s.batch :=
      p.batch_sendBatch s batch
    rw [Run.held, Run.held, hopen, hsending]
    simp [Run.setProducer, Producer.handsOver, Producer.leaving, Producer.coming]
  | @close batch hclosing =>
    rw [hclosing] at h
    -- a producer that closes has taken what was in the open batch along
    have hopen : s.batch = [] := by
      generalize s.batch = opened at h ⊢
      cases h with
      | gathering hproducer => cases hproducer
      | closing => rfl
    rw [Run.held, Run.held, hopen, hclosing]
    simp [finish, Run.note, Producer.handsOver, Producer.leaving, Producer.coming]

end

/-! ### Runs -/

/-- How the batches that were handed over correspond to the inputs that were read. -/
structure Batched (p : Pipeline σ) (inputs : List Input) (readings : List Reading)
    (batches : List (List WriteItem)) (s : Run σ) : Prop where
  /-- The inputs are read in their order. -/
  inputs : readings.map (·.input) ++ s.inputs = inputs
  /-- The items are handed over in their order, or still held. -/
  items : batches.flatten ++ s.held = classifiedItems readings
  stage : Stage p.options.batchSize batches s.producer s.batch
  /-- The producer stops reading only when there is nothing to read. -/
  drained : s.producer.work ≤ 1 → s.inputs = []

/-- A run starts with an open batch that has room, and nothing handed over. -/
theorem batched_start (hsize : 0 < p.options.batchSize) (w : World σ) (cancelAt : Option Nat)
    (inputs : List Input) :
    p.Batched inputs [] [] ({ p.start w inputs with cancelAt } : Run σ) where
  inputs := rfl
  items := rfl
  stage := .gathering rfl (fun _ hb => nomatch hb) hsize
  drained := fun hle => absurd hle (show ¬3 ≤ 1 by decide)

section

variable {inputs : List Input} {readings : List Reading} {batches : List (List WriteItem)}
  {s t : Run σ}

/-- What the producer works on is all that counts. -/
theorem Batched.of_production (h : p.Batched inputs readings batches s)
    (hproduction : t.production = s.production) : p.Batched inputs readings batches t := by
  obtain ⟨hinputs, -, hproducer, hbatch⟩ : t.inputs = s.inputs ∧ t.lastToken = s.lastToken ∧
      t.producer = s.producer ∧ t.batch = s.batch := by
    simpa [Run.production] using hproduction
  refine ⟨?_, ?_, ?_, ?_⟩
  · rw [hinputs]
    exact h.inputs
  · rw [Run.held, hproducer, hbatch]
    exact h.items
  · rw [hproducer, hbatch]
    exact h.stage
  · rw [hproducer, hinputs]
    exact h.drained

/-- An input that is read comes next, and the producer holds its items after all others. -/
theorem Batched.read {r : Reading} (h : p.Batched inputs readings batches s)
    (hstep : p.Step s (some r) t) :
    p.Batched inputs (readings ++ [r]) (batches ++ s.producer.handsOver t.producer) t := by
  obtain ⟨-, hinputs, -⟩ := extent_read hstep
  have hread : (readings ++ [r]).map (·.input) ++ t.inputs = inputs := by
    rw [List.map_append, List.map_singleton, List.append_assoc, List.singleton_append, ← hinputs]
    exact h.inputs
  cases hstep with
  | @read u i rest result last hcan hrest hcall hresult =>
    have hidle := hcan.imp_left And.left
    have hgathers := gathers_of_idle hidle
    obtain ⟨hfull, hroom⟩ := h.stage.of_gathers hgathers
    obtain ⟨world, cancelled, rfl⟩ := eq_of_classification hcall
    rw [Producer.handsOver_of_gathers hgathers, List.append_nil]
    have hitems := h.items
    rw [held_of_idle hidle] at hitems
    have hgoes : 1 < (p.classified { s with inputs := rest, world, cancelled } i
        (.ok (result, last))).producer.work := work_classified _ i hresult
    cases result with
    | ok items =>
      refine ⟨hread, ?_, .gathering rfl hfull hroom, fun hle => absurd hle (Nat.not_le.2 hgoes)⟩
      rw [classifiedItems_append, ← hitems, List.append_assoc]
      rfl
    -- an input that is refused has no items to hold
    | error e =>
      cases e with
      | breach => exact absurd rfl hresult
      | error contexts root =>
        refine ⟨hread, ?_, .gathering rfl hfull hroom, fun hle => absurd hle (Nat.not_le.2 hgoes)⟩
        rw [classifiedItems_append, ← hitems]
        show batches.flatten ++ ([] ++ (s.batch ++ [])) = batches.flatten ++ s.batch ++ []
        simp

end

/-- **Every step of a run that is not cancelled keeps the items in their order.** -/
theorem batched_of_dispatching {w : World σ} {cancelAt : Option Nat} {inputs : List Input}
    {readings : List Reading} {batches : List (List WriteItem)} {t : Run σ}
    (hsize : 0 < p.options.batchSize)
    (h : p.Dispatching { p.start w inputs with cancelAt } readings batches t)
    (hcancelled : t.cancelled = false) : p.Batched inputs readings batches t := by
  induction h with
  | start => exact batched_start hsize w cancelAt inputs
  | @next readings batches t u r run hstep ih =>
    -- what is not cancelled after a step was not cancelled before it
    have hnot := cancelled_step hstep hcancelled
    have hbefore := ih hnot
    cases r with
    | some r => exact hbefore.read hstep
    | none =>
      rw [Option.toList_none, List.append_nil]
      rcases production_step hstep with ⟨hnone, hpassing, hproduce⟩ | ⟨hproduction, -⟩
      · have hinputs : u.inputs = t.inputs := congrArg (·.1) (extent_step hstep)
        refine ⟨?_, ?_, hbefore.stage.passing hsize hpassing hnot, ?_⟩
        · rw [hinputs]
          exact hbefore.inputs
        · rw [List.flatten_append, List.append_assoc, held_passing hbefore.stage hpassing hnot]
          exact hbefore.items
        · rw [hproduce]
          exact drained_produce hbefore.drained hnot hnone
      · rw [handsOver_of_production hproduction, List.append_nil]
        exact hbefore.of_production hproduction
  | broke _ hbreaks ih =>
    obtain ⟨hproduction, -, hnot⟩ := production_broke hbreaks
    exact (ih (hnot hcancelled)).of_production hproduction

/-- The batches that wait for a worker are among those that were handed over, in their order. -/
theorem queue_of_dispatching {w : World σ} {cancelAt : Option Nat} {inputs : List Input}
    {readings : List Reading} {batches : List (List WriteItem)} {t : Run σ}
    (h : p.Dispatching { p.start w inputs with cancelAt } readings batches t) :
    t.queue.Sublist batches := by
  induction h with
  | start => exact List.nil_sublist []
  | @next readings batches t u r run hstep ih =>
    rcases queue_step hstep with ⟨hnothing, hqueue⟩ | ⟨batch, hbatch, hqueue, -⟩
    · rw [hnothing, List.append_nil]
      exact hqueue.sublist.trans ih
    · rw [hbatch, hqueue]
      unfold sendBatch
      split
      · exact ih.append_right [batch]
      · exact ih.trans (List.sublist_append_left batches [batch])
  | broke _ hbreaks ih => exact (production_broke hbreaks).2.1 ▸ ih

/-- Valid options give a batch room for an item. -/
theorem batchSize_pos {o : WriteOptions} (h : o.validate = .ok ()) : 0 < o.batchSize := by
  unfold WriteOptions.validate at h
  split at h
  · exact nomatch h
  · rename_i hnone
    -- the first rule is the one about the size of a batch
    have hfirst := List.find?_eq_none.1 hnone _ List.mem_cons_self
    exact Nat.pos_of_ne_zero fun hzero => hfirst (beq_iff_eq.2 hzero)

/-- How batches part the items of inputs. -/
structure Parted (size : Nat) (inputs : List Input) (readings : List Reading)
    (batches : List (List WriteItem)) : Prop where
  /-- Every input is read, in the order of the inputs. -/
  inputs : readings.map (·.input) = inputs
  /-- One after the other, the batches are all items in the order of their classification. -/
  items : batches.flatten = classifiedItems readings
  /-- Every batch but the last is full. -/
  full : ∀ b ∈ batches.dropLast, b.length = size
  /-- No batch is empty, and none is too long. -/
  fits : ∀ b ∈ batches, b ≠ [] ∧ b.length ≤ size
  /-- The tokens ascend along the batches. -/
  tokens : (batches.flatten.map (·.token)).Pairwise (· < ·)

/-- When the producer has finished, it holds nothing and no input is left. -/
theorem Batched.parted {inputs : List Input} {readings : List Reading}
    {batches : List (List WriteItem)} {s : Run σ} (h : p.Batched inputs readings batches s)
    (htokens : Ascending readings s.lastToken) (hfinished : s.producer = .finished) :
    Parted p.options.batchSize inputs readings batches := by
  have hstage := h.stage
  rw [hfinished] at hstage
  generalize hbatch : s.batch = opened at hstage
  cases hstage with
  | gathering hproducer => exact nomatch hproducer
  | finished hfull hfits =>
    have hinputs : s.inputs = [] := h.drained (by rw [hfinished]; exact Nat.zero_le 1)
    have hheld : s.held = [] := by
      rw [Run.held, hfinished, hbatch]
      rfl
    have hitems : batches.flatten = classifiedItems readings := by
      rw [← h.items, hheld, List.append_nil]
    refine ⟨?_, hitems, hfull, hfits, ?_⟩
    · rw [← h.inputs, hinputs, List.append_nil]
    · rw [hitems]
      exact htokens.tokens

/-- The scheduled run is one of them, unless the producer breaks off. -/
theorem dispatching_run {s : Run σ}
    (hb : ∀ readings batches t, p.Dispatching s readings batches t → ¬p.Breaks t .producer) :
    ∃ readings batches, p.Dispatching s readings batches (p.run s) := by
  suffices hrun : ∀ readings batches t, p.Dispatching s readings batches t →
      ∃ readings' batches', p.Dispatching s readings' batches' (p.run t) from hrun [] [] s .start
  intro readings batches t
  induction t using run.induct p generalizing readings batches with
  | case1 t hnext =>
    intro h
    rw [run, hnext]
    exact ⟨readings, batches, h⟩
  | case2 t a time hnext ih =>
    intro h
    have hdue : (p.due? (t.at time) a).isSome := by
      rw [due?_at_isSome, due?_of_next? hnext]
      rfl
    have hpass := h.next (.pass t time)
    rw [run, hnext]
    by_cases hbreaks : p.Breaks (t.at time) a
    · cases a with
      | producer => exact absurd hbreaks (hb _ _ _ hpass)
      | worker id => exact ih _ _ (hpass.broke hbreaks)
      | canceller => exact hbreaks.elim
    · obtain ⟨r, hstep⟩ := step_of_due hdue hbreaks
      exact ih _ _ (hpass.next hstep)

/-- **Batches part the items.** Whatever the service answers, in whatever order the steps are taken,
and even if workers break off: once the producer of a run that is not cancelled has finished, the
batches that it has handed over part the items of all inputs. The scheduled run ends that way. -/
theorem parted_of_dispatching {p : Pipeline σ} (hoptions : p.options.validate = .ok ())
    (w : World σ) (cancelAt : Option Nat) (inputs : List Input) :
    (∀ readings batches t, p.Dispatching { p.start w inputs with cancelAt } readings batches t →
      t.queue.Sublist batches ∧
        (t.cancelled = false → t.producer = .finished →
          Parted p.options.batchSize inputs readings batches)) ∧
      ((∀ readings batches t,
          p.Dispatching { p.start w inputs with cancelAt } readings batches t →
            ¬p.Breaks t .producer) →
        (p.run { p.start w inputs with cancelAt }).cancelled = false →
        ∃ readings batches,
          p.Dispatching { p.start w inputs with cancelAt } readings batches
            (p.run { p.start w inputs with cancelAt }) ∧
          Parted p.options.batchSize inputs readings batches) := by
  have hparted : ∀ readings batches t,
      p.Dispatching { p.start w inputs with cancelAt } readings batches t →
        t.cancelled = false → t.producer = .finished →
          Parted p.options.batchSize inputs readings batches := by
    intro readings batches t h hcancelled hfinished
    have hbatched := batched_of_dispatching (batchSize_pos hoptions) h hcancelled
    exact hbatched.parted (ascending_of_dispatching h) hfinished
  constructor
  · intro readings batches t h
    exact ⟨queue_of_dispatching h, hparted readings batches t h⟩
  · intro hb hcancelled
    obtain ⟨readings, batches, h⟩ := dispatching_run hb
    refine ⟨readings, batches, h, hparted _ _ _ h hcancelled ?_⟩
    have hover := isOver_run (parallelism_pos hoptions) { p.start w inputs with cancelAt }
    exact isClosed_eq_true.1 (Bool.and_eq_true_iff.1 hover).1

/-- A service in which every query finds three notes. -/
def threefold : Service Unit :=
  { refusing with
    query := fun q => return ⟨q.entity, [1, 2, 3].map fun n =>
      { Record.ofEntity q.entity with id := some (.numbered n) }, none, false, none⟩ }

/-- A pipeline that updates the notes with the title of an input, two in a batch. -/
def trebled : Pipeline Unit where
  service := threefold
  entity := (Entity.ofName "note").declare (.ofType "title" .string)
  options := { WriteOptions.standard with
    batchSize := 2, matchOn := [["title"]], allowMultipleMatches := true }
  gap := 0
  cancels := fun _ => false

/-- An identity that is none, and a title that three notes have. -/
def trebledInputs : List Input :=
  [⟨.ofList [("Id", .loose (.bool true))]⟩, ⟨.ofList [("title", .loose (.string "a"))]⟩]

/-- The input that could not be classified has taken the first token, and the first batch ends in
the middle of the items of the other one. -/
theorem parted_of_dispatching_trebled :
    ∃ readings batches t,
      trebled.Dispatching { trebled.start ⟨(), []⟩ trebledInputs with cancelAt := none } readings
        batches t ∧
      t.cancelled = false ∧ t.producer = .finished ∧
      batches.map (·.map (·.token)) = [[2, 3], [4]] ∧
      Parted 2 trebledInputs readings batches := by
  have h₀ : trebled.Dispatching
      { trebled.start ⟨(), []⟩ trebledInputs with cancelAt := none } [] [] _ := .start
  have h₁ := h₀.next (.read (.inl ⟨rfl, rfl⟩) rfl rfl nofun)
  have h₂ := h₁.next (.read (.inl ⟨rfl, rfl⟩) rfl rfl nofun)
  have h₃ := h₂.next (.produce rfl rfl)
  have h₄ := h₃.next (.produce rfl rfl)
  have h₅ := h₄.next (.produce rfl rfl)
  -- the worker takes the first batch, which makes room for the second one
  have h₆ := h₅.next (.receive (Run.worker_of_singleton rfl) rfl)
  have h₇ := h₆.next (.produce rfl rfl)
  have h₈ := h₇.next (.produce rfl rfl)
  have h₉ := h₈.next (.produce rfl rfl)
  have h := h₉.next (.produce rfl rfl)
  have hparted := (parted_of_dispatching (p := trebled) rfl ⟨(), []⟩ none trebledInputs).1 _ _ _ h
  exact ⟨_, _, _, h, rfl, rfl, rfl, hparted.2 rfl rfl⟩

end RecordService.Pipeline
