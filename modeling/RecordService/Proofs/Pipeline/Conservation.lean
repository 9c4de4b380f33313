import RecordService.Proofs.Pipeline.Tickets
import Mathlib.Algebra.BigOperators.Group.List.Basic
import Mathlib.Data.Multiset.Bind

namespace RecordService.Pipeline

/-!
# Nothing is lost and nothing is doubled

In any order of steps, the outcomes of a run that is over are those of the items that its inputs
were classified to, each of them once.

* `Run.Tidy`: where no items can be left behind.
* `Conserved`, `conserved_step`: what every step keeps.
* `Accounted`: how the outcomes of a run correspond to the inputs that were read.
* `accounted_of_interleaving`: every run that is over is accounted for.
-/

variable {σ : Type} {p : Pipeline σ}

/-! ### No items are left behind -/

/-- A producer that reads no more has no open batch, and workers leave an empty queue behind. -/
structure Run.Tidy (s : Run σ) : Prop where
  closing : ∀ batch, s.producer = .closing batch → s.batch = []
  finished : s.producer = .finished → s.batch = []
  gone : .gone ∈ s.workers → s.producer = .finished ∧ s.queue = []

/-- The queue is closed exactly when the producer has finished. -/
theorem isClosed_eq_true {s : Run σ} : s.isClosed = true ↔ s.producer = .finished := by
  unfold Run.isClosed
  cases s.producer <;> simp

/-- A worker that turns to something else leaves no items behind as long as it does not go. -/
theorem Run.Tidy.setWorker {s : Run σ} (h : s.Tidy) (id : Nat) {w : Worker} (hw : w ≠ .gone) :
    (s.setWorker id w).Tidy := by
  refine ⟨h.closing, h.finished, fun hgone => h.gone ?_⟩
  rcases List.mem_or_eq_of_mem_set hgone with hmem | heq
  · exact hmem
  · exact absurd heq.symm hw

/-- As long as the producer is there, so are the workers. -/
theorem Run.Tidy.gone_notMem {s : Run σ} (h : s.Tidy) (hproducer : s.producer ≠ .finished) :
    .gone ∉ s.workers :=
  fun hgone => hproducer (h.gone hgone).1

/-- A producer that finishes has no open batch any more. -/
theorem tidy_finish {s : Run σ} (hgone : .gone ∉ s.workers) : (p.finish s).Tidy :=
  ⟨fun _ _ => rfl, fun _ => rfl, fun h => absurd h hgone⟩

/-- A producer that reads no more leaves no open batch, whether it is cancelled or not. -/
theorem tidy_leave {s : Run σ} (hgone : .gone ∉ s.workers) : (p.leave s).Tidy := by
  unfold leave
  split
  · exact tidy_finish hgone
  · split
    · exact tidy_finish (s := s.failItems _ _ _) hgone
    · exact ⟨fun _ _ => rfl, fun _ => rfl, fun h => absurd h hgone⟩

/-- Sending a batch leaves the workers to what they are doing. -/
theorem workers_sendBatch (s : Run σ) (batch : List WriteItem) :
    (p.sendBatch s batch).workers = s.workers := by
  unfold sendBatch
  split <;> rfl

/-- What the producer does leaves no items behind. -/
theorem tidy_passing {s t : Run σ} (h : s.Tidy) (hstep : p.Passing s t) : t.Tidy := by
  -- a producer that does something has not finished, so that no worker has gone yet
  have hthere : s.producer ≠ .finished := by
    intro hfinished
    cases hstep <;> simp_all
  have hgone := h.gone_notMem hthere
  cases hstep with
  | leave => exact tidy_leave hgone
  | ask => exact ⟨nofun, nofun, fun hmem => absurd hmem hgone⟩
  | resume => exact ⟨nofun, nofun, fun hmem => absurd hmem hgone⟩
  | fill =>
    unfold fill
    dsimp only
    split
    · exact ⟨nofun, nofun, fun hmem => absurd hmem hgone⟩
    · exact ⟨nofun, nofun, fun hmem => absurd hmem hgone⟩
  | send =>
    refine ⟨nofun, nofun, fun hmem => absurd ?_ hgone⟩
    rwa [← workers_sendBatch]
  | close =>
    refine tidy_finish ?_
    rwa [workers_sendBatch]

/-- A worker that takes a batch, or leaves once there will be none, leaves no items behind. -/
theorem tidy_receive {s : Run σ} {id : Nat} (h : s.Tidy) (hdue : (workerDue? s .idle).isSome) :
    (p.receive s id).Tidy := by
  unfold receive
  cases hqueue : s.queue with
  | nil =>
    -- a worker leaves an empty queue only if nothing will be added to it
    have hclosed : s.producer = .finished := by
      rw [← isClosed_eq_true]
      simpa [workerDue?, hqueue] using hdue
    exact ⟨h.closing, h.finished, fun _ => ⟨hclosed, hqueue⟩⟩
  | cons batch queue =>
    have htaken : ({ s with queue } : Run σ).Tidy := by
      refine ⟨h.closing, h.finished, fun hmem => ?_⟩
      have hempty := (h.gone hmem).2
      rw [hqueue] at hempty
      cases hempty
    dsimp only
    split
    · exact ⟨htaken.closing, htaken.finished, htaken.gone⟩
    · refine Run.Tidy.setWorker (s := ({ s with queue } : Run σ).note (p.receiveLine id batch))
        ⟨htaken.closing, htaken.finished, htaken.gone⟩ id ?_
      intro hgone
      cases hgone

/-- A worker that settles items leaves none behind. -/
theorem tidy_settled {s : Run σ} {id : Nat} {r : Submission.Settlement} (h : s.Tidy) :
    (p.settled s id r).Tidy := by
  have hput : ((s.emit r.outcomes).notes r.journal).Tidy := ⟨h.closing, h.finished, h.gone⟩
  unfold settled
  dsimp only
  split
  · exact hput.setWorker id (by nofun)
  · exact hput.setWorker id (by nofun)

/-- An input that is read leaves no items behind. -/
theorem tidy_classified {s : Run σ} {i : Input} {result : Answer (List WriteItem)} {last : Nat}
    (hgone : .gone ∉ s.workers) (hresult : result ≠ .error .breach) :
    (p.classified s i (.ok (result, last))).Tidy := by
  cases result with
  | ok items => exact ⟨nofun, nofun, fun hmem => absurd hmem hgone⟩
  | error e =>
    cases e with
    | breach => exact absurd rfl hresult
    | error => exact ⟨nofun, nofun, fun hmem => absurd hmem hgone⟩

/-- A producer that can take an input has not finished. -/
theorem Run.CanRead.ne_finished {s : Run σ} (h : s.CanRead) : s.producer ≠ .finished := by
  rcases h with ⟨hreading, -⟩ | ⟨due, hawaiting⟩
  · rw [hreading]
    nofun
  · rw [hawaiting]
    nofun

/-- **No items are left behind** in any step. -/
theorem tidy_step {s t : Run σ} {r : Option Reading} (h : s.Tidy) (hstep : p.Step s r t) :
    t.Tidy := by
  cases hstep with
  | pass => exact ⟨h.closing, h.finished, h.gone⟩
  | cancel => exact ⟨h.closing, h.finished, h.gone⟩
  | read hread hinputs hcall hresult =>
    obtain ⟨world, cancelled, rfl⟩ := eq_of_classification hcall
    exact tidy_classified (h.gone_notMem hread.ne_finished) hresult
  | produce hdue hnone => exact tidy_passing h (passing_produce hdue hnone)
  | receive hw hdue => exact tidy_receive h hdue
  | answer hw hcall =>
    obtain ⟨world, cancelled, rfl⟩ := eq_of_submission hcall
    exact tidy_settled ⟨h.closing, h.finished, h.gone⟩
  | @wake id due items hw =>
    split
    · exact Run.Tidy.setWorker (s := (s.failItems p.entity.name items (.of .cancelled)).notes _)
        ⟨h.closing, h.finished, h.gone⟩ id (by nofun)
    · exact h.setWorker id (by nofun)

/-! ### Only reading brings items in -/

/-- A producer that can take an input has no items in hand. -/
theorem Run.CanRead.tickets_producer {s : Run σ} (h : s.CanRead) : s.producer.tickets = 0 := by
  rcases h with ⟨hreading, -⟩ | ⟨due, hawaiting⟩
  · rw [hreading]
    rfl
  · rw [hawaiting]
    rfl

/-- **Conservation.** A step adds the tickets of the input that is read in it, and no other. -/
theorem tickets_step {s t : Run σ} {r : Option Reading} (h : s.Tidy) (hstep : p.Step s r t) :
    t.tickets = s.tickets + r.elim 0 Reading.tickets := by
  cases hstep with
  | pass => exact (add_zero _).symm
  | cancel => exact (add_zero _).symm
  | read hread hinputs hcall hresult =>
    obtain ⟨world, cancelled, rfl⟩ := eq_of_classification hcall
    exact tickets_classified hread.tickets_producer hresult
  | produce hdue hnone =>
    exact (tickets_passing (passing_produce hdue hnone) h.closing).trans (add_zero _).symm
  | receive hw => exact (tickets_receive hw).trans (add_zero _).symm
  | answer hw hcall => exact (tickets_answered hw hcall).trans (add_zero _).symm
  | wake hw => exact (tickets_wake hw).trans (add_zero _).symm

/-- How far a run has read, and how many workers it has. -/
def Run.extent (s : Run σ) : List Input × Nat × Nat × Nat :=
  (s.inputs, s.read, s.lastToken, s.workers.length)

/-- What a worker does next reads no input. -/
theorem extent_setWorker (s : Run σ) (id : Nat) (w : Worker) :
    (s.setWorker id w).extent = s.extent := by
  unfold Run.extent Run.setWorker
  rw [List.length_set]

/-- Sending a batch reads no input. -/
theorem extent_sendBatch (s : Run σ) (batch : List WriteItem) :
    (p.sendBatch s batch).extent = s.extent := by
  unfold sendBatch
  split <;> rfl

/-- What the producer does by itself reads no input. -/
theorem extent_passing {s t : Run σ} (h : p.Passing s t) : t.extent = s.extent := by
  cases h with
  | leave =>
    unfold leave
    split
    · rfl
    · split <;> rfl
  | ask => rfl
  | resume => rfl
  | fill =>
    unfold fill
    dsimp only
    split <;> rfl
  | send => exact extent_sendBatch s _
  | close => exact extent_sendBatch s _

/-- Taking a batch reads no input. -/
theorem extent_receive (s : Run σ) (id : Nat) : (p.receive s id).extent = s.extent := by
  unfold receive
  cases hqueue : s.queue with
  | nil => exact extent_setWorker s id .gone
  | cons batch queue =>
    dsimp only
    split
    · rfl
    · exact extent_setWorker (({ s with queue } : Run σ).note (p.receiveLine id batch)) id _

/-- Settling the answer to a batch reads no input. -/
theorem extent_settled (s : Run σ) (id : Nat) (r : Submission.Settlement) :
    (p.settled s id r).extent = s.extent := by
  unfold settled
  dsimp only
  split
  · exact extent_setWorker ((s.emit r.outcomes).notes r.journal) id _
  · exact extent_setWorker ((s.emit r.outcomes).notes r.journal) id _

/-- Steps in which no input is read leave what was read as it is. -/
theorem extent_step {s t : Run σ} (hstep : p.Step s none t) : t.extent = s.extent := by
  cases hstep with
  | pass => rfl
  | cancel => rfl
  | produce hdue hnone => exact extent_passing (passing_produce hdue hnone)
  | @receive id => exact extent_receive s id
  | @answer u id items results hw hcall =>
    obtain ⟨world, cancelled, rfl⟩ := eq_of_submission hcall
    exact extent_settled { s with world, cancelled } id _
  | @wake id due items =>
    split
    · exact extent_setWorker ((s.failItems p.entity.name items (.of .cancelled)).notes _) id _
    · exact extent_setWorker s id _

/-- The last token that was given when an input is done with. A failure takes one more. -/
def Reading.lastToken (r : Reading) : Nat :=
  match r.result with
  | .ok _ => r.last
  | .error _ => r.last + 1

/-- What an input that is read was classified to, and how far the run has read then. -/
theorem extent_read {s t : Run σ} {r : Reading} (hstep : p.Step s (some r) t) :
    r.index = s.read ∧ s.inputs = r.input :: t.inputs ∧
      t.extent = (t.inputs, s.read + 1, r.lastToken, s.workers.length) ∧
      ∃ w w', (p.classifier.items p.service s.read r.input s.lastToken).runOn w =
        (.ok (r.result, r.last), w') := by
  cases hstep with
  | @read u i rest result last hread hinputs hcall hresult =>
    have hrun := congrArg (·.1) hcall
    obtain ⟨world, cancelled, rfl⟩ := eq_of_classification hcall
    refine ⟨rfl, ?_, ?_, s.world, _, Prod.ext hrun rfl⟩
    · cases result with
      | ok items => exact hinputs
      | error e =>
        cases e with
        | breach => exact absurd rfl hresult
        | error => exact hinputs
    · cases result with
      | ok items => rfl
      | error e =>
        cases e with
        | breach => exact absurd rfl hresult
        | error => rfl

/-! ### What every step keeps -/

/-- The tickets of an input that was read: at least one, with the next tokens, and all of them
with the place and the input of the reading. -/
theorem Reading.tickets_spec {r : Reading} {service : Service σ} {c : Classifier} {last : Nat}
    {w w' : World σ}
    (h : (c.items service r.index r.input last).runOn w = (.ok (r.result, r.last), w')) :
    (∃ k n, last ≤ k ∧ 0 < n ∧ r.lastToken = k + n ∧
        r.tickets.map (·.token) = (List.range' (k + 1) n : List Nat)) ∧
      ∀ ticket ∈ r.tickets, ticket.index = r.index ∧ ticket.input = r.input := by
  obtain ⟨hlast, hitems⟩ := Classifier.items_eq_ok h
  unfold Reading.lastToken Reading.tickets
  cases hresult : r.result with
  | error e =>
    refine ⟨⟨r.last, 1, hlast, Nat.one_pos, rfl, rfl⟩, fun ticket hmem => ?_⟩
    rw [Multiset.mem_singleton.1 hmem]
    exact ⟨rfl, rfl⟩
  | ok items =>
    obtain ⟨hne, ⟨n, htokens, hn⟩, hown⟩ := hitems items hresult
    refine ⟨⟨last, n, Nat.le_refl _, ?_, hn, ?_⟩, fun ticket hmem => ?_⟩
    · have hlength := congrArg List.length htokens
      rw [List.length_map, List.length_range'] at hlength
      rw [← hlength]
      exact List.length_pos_iff.2 hne
    · show Multiset.map _ ((items.map WriteItem.ticket : List Ticket) : Multiset Ticket) = _
      rw [Multiset.map_coe, List.map_map, ← htokens]
      rfl
    · obtain ⟨item, hitem, rfl⟩ := List.mem_map.1 (Multiset.mem_coe.1 hmem)
      obtain ⟨hindex, hinput, _⟩ := hown item hitem
      exact ⟨hindex, hinput⟩

/-- What holds of a run and the inputs that were read, after any number of steps. -/
structure Conserved (p : Pipeline σ) (inputs : List Input) (readings : List Reading)
    (s : Run σ) : Prop where
  tidy : s.Tidy
  inputs : readings.map (·.input) ++ s.inputs = inputs
  indices : readings.map (·.index) = List.range s.read
  /-- Every ticket that was brought in is still there. -/
  tickets : s.tickets = (readings.map Reading.tickets).sum
  tokens : (s.tickets.map (·.token)).Nodup
  given : ∀ ticket ∈ s.tickets, ticket.token ≤ s.lastToken
  own : ∀ r ∈ readings, r.tickets ≠ 0 ∧
    ∀ ticket ∈ r.tickets, ticket.index = r.index ∧ ticket.input = r.input
  workers : s.workers.length = p.options.parallelism

/-- A run starts without items and without outcomes. -/
theorem tickets_start (w : World σ) (cancelAt : Option Nat) (inputs : List Input) :
    ({ p.start w inputs with cancelAt } : Run σ).tickets = 0 := by
  have hidle : ((List.replicate p.options.parallelism Worker.idle).map Worker.tickets).sum = 0 := by
    rw [List.map_replicate, Worker.tickets_idle, List.sum_replicate, nsmul_zero]
  simp only [start, Run.tickets, hidle]
  rfl

/-- What steps keep is there at the start. -/
theorem conserved_start (w : World σ) (cancelAt : Option Nat) (inputs : List Input) :
    p.Conserved inputs [] { p.start w inputs with cancelAt } where
  tidy := ⟨fun _ _ => rfl, fun _ => rfl, fun hmem => nomatch List.eq_of_mem_replicate hmem⟩
  inputs := rfl
  indices := rfl
  tickets := tickets_start w cancelAt inputs
  tokens := by
    rw [tickets_start]
    exact Multiset.nodup_zero
  given := by
    rw [tickets_start]
    nofun
  own := nofun
  workers := List.length_replicate

/-- A step that reads nothing keeps everything. -/
theorem conserved_idle {inputs : List Input} {readings : List Reading} {s t : Run σ}
    (h : p.Conserved inputs readings s) (hstep : p.Step s none t) :
    p.Conserved inputs readings t := by
  have htickets : t.tickets = s.tickets := (tickets_step h.tidy hstep).trans (add_zero _)
  have hextent := extent_step hstep
  simp only [Run.extent, Prod.mk.injEq] at hextent
  obtain ⟨hinputs, hread, hlast, hworkers⟩ := hextent
  exact {
    tidy := tidy_step h.tidy hstep
    inputs := by rw [hinputs, h.inputs]
    indices := by rw [hread, h.indices]
    tickets := htickets.trans h.tickets
    tokens := htickets ▸ h.tokens
    given := by
      rw [htickets, hlast]
      exact h.given
    own := h.own
    workers := hworkers.trans h.workers }

/-- A step that reads an input brings in its tickets, whose tokens were not given before. -/
theorem conserved_read {inputs : List Input} {readings : List Reading} {s t : Run σ} {r : Reading}
    (h : p.Conserved inputs readings s) (hstep : p.Step s (some r) t) :
    p.Conserved inputs (readings ++ [r]) t := by
  have htickets : t.tickets = s.tickets + r.tickets := tickets_step h.tidy hstep
  obtain ⟨hindex, hinputs, hextent, w, w', hrun⟩ := extent_read hstep
  simp only [Run.extent, Prod.mk.injEq, true_and] at hextent
  obtain ⟨hread, hlast, hworkers⟩ := hextent
  rw [← hindex] at hrun
  obtain ⟨⟨k, n, hk, hn, hlastToken, htokens⟩, hown⟩ := Reading.tickets_spec hrun
  -- the tokens of the reading lie between the last one before it and the last one after it
  have hnew : ∀ ticket ∈ r.tickets, s.lastToken < ticket.token ∧ ticket.token ≤ t.lastToken := by
    intro ticket hmem
    have htoken := Multiset.mem_map_of_mem (·.token) hmem
    rw [htokens, Multiset.mem_coe, List.mem_range'_1] at htoken
    rw [hlast, hlastToken]
    omega
  exact {
    tidy := tidy_step h.tidy hstep
    inputs := by
      rw [List.map_append, List.append_assoc, ← h.inputs, hinputs]
      rfl
    indices := by
      rw [List.map_append, h.indices, hread, List.range_succ, ← hindex]
      rfl
    tickets := by
      rw [htickets, h.tickets, List.map_append, List.sum_append]
      simp only [List.map_cons, List.map_nil, List.sum_cons, List.sum_nil, add_zero]
    tokens := by
      rw [htickets, Multiset.map_add, Multiset.nodup_add]
      refine ⟨h.tokens, ?_, ?_⟩
      · rw [htokens]
        exact List.nodup_range'
      -- and so none of them was given before
      · rw [Multiset.disjoint_left]
        intro token hold hmem
        obtain ⟨ticket, hticket, rfl⟩ := Multiset.mem_map.1 hold
        obtain ⟨other, hother, heq⟩ := Multiset.mem_map.1 hmem
        have hgiven := h.given ticket hticket
        have hlater := (hnew other hother).1
        omega
    given := by
      intro ticket hmem
      rw [htickets, Multiset.mem_add] at hmem
      rcases hmem with hold | hmem
      · have hgiven := h.given ticket hold
        omega
      · exact (hnew ticket hmem).2
    own := by
      intro other hmem
      rcases List.mem_append.1 hmem with hold | hmem
      · exact h.own other hold
      · rw [List.mem_singleton.1 hmem]
        refine ⟨fun hzero => ?_, hown⟩
        rw [hzero, Multiset.map_zero] at htokens
        have hcard := congrArg Multiset.card htokens
        rw [Multiset.card_zero, Multiset.coe_card, List.length_range'] at hcard
        omega
    workers := hworkers.trans h.workers }

/-- **Invariant.** Every interleaving conserves the items. -/
theorem conserved_interleaving {w : World σ} {cancelAt : Option Nat} {inputs : List Input}
    {readings : List Reading} {s : Run σ}
    (h : p.Interleaving { p.start w inputs with cancelAt } readings s) :
    p.Conserved inputs readings s := by
  induction h with
  | start => exact conserved_start w cancelAt inputs
  | @next _ _ _ r _ hstep ih =>
    cases r with
    | none =>
      rw [Option.toList_none, List.append_nil]
      exact conserved_idle ih hstep
    | some r => exact conserved_read ih hstep

/-! ### Runs that are over -/

/-- How the outcomes of a run correspond to the inputs that were read. -/
structure Accounted (inputs : List Input) (readings : List Reading) (s : Run σ) : Prop where
  /-- The first inputs were read, one after the other. -/
  taken : readings.map (·.input) = inputs.take s.read
  indices : readings.map (·.index) = List.range s.read
  /-- The outcomes have the tickets that were brought in, no more and no fewer. -/
  tickets : ItemOutcome.tickets s.outcomes = (readings.map Reading.tickets).sum
  /-- An item has exactly one outcome, which carries its place and its input. -/
  items : ∀ r ∈ readings, ∀ items, r.result = .ok items → ∀ item ∈ items,
    item.index = r.index ∧ item.input = r.input ∧
      ∃ o, s.outcomes.filter (·.token = item.token) = [o] ∧
        o.index = item.index ∧ o.input = item.input
  /-- An input that could not be classified has exactly one outcome. -/
  failures : ∀ r ∈ readings, ∀ e, r.result = .error e →
    ∃ o, s.outcomes.filter (·.index = r.index) = [o] ∧ o.input = r.input
  /-- Every input that was read has an outcome. -/
  reached : ∀ k < s.read, ∃ o ∈ s.outcomes, o.index = k
  /-- No two outcomes share a token. -/
  tokens : (s.outcomes.map (·.token)).Nodup
  /-- Every outcome is of an input that was read. -/
  read : ∀ o ∈ s.outcomes, o.index < s.read ∧ inputs[o.index]? = some o.input

/-- All tickets of a run that is over are those of its outcomes. -/
theorem tickets_of_isOver {s : Run σ} (htidy : s.Tidy) (hworkers : s.workers ≠ [])
    (hover : s.isOver = true) : s.tickets = ItemOutcome.tickets s.outcomes := by
  have hover' : s.isClosed = true ∧ s.hasWorkers = false := by simpa [Run.isOver] using hover
  have hproducer : s.producer = .finished := isClosed_eq_true.1 hover'.1
  have hgone : ∀ w ∈ s.workers, w = .gone := by
    intro w hw
    have hnot := List.any_eq_false.1 hover'.2 w hw
    cases w with
    | gone => rfl
    | _ => exact absurd rfl hnot
  -- whoever left last left the queue empty, which is why there has to be a worker
  have hqueue : s.queue = [] := by
    obtain ⟨w, hw⟩ := List.exists_mem_of_ne_nil _ hworkers
    exact (htidy.gone (hgone w hw ▸ hw)).2
  have hnone : (s.workers.map Worker.tickets).sum = 0 := by
    refine List.sum_eq_zero fun tickets hmem => ?_
    obtain ⟨w, hw, rfl⟩ := List.mem_map.1 hmem
    rw [hgone w hw, Worker.tickets_gone]
  rw [Run.tickets, hproducer, htidy.finished hproducer, hqueue, hnone]
  simp

/-- What tells the members of a list apart picks out each of them alone. -/
theorem filter_eq_singleton {α : Type} {f : α → Nat} {as : List α} {a : α}
    (hnodup : (as.map f).Nodup) (ha : a ∈ as) : as.filter (f · = f a) = [a] := by
  induction as with
  | nil => exact nomatch ha
  | cons b as ih =>
    rw [List.map_cons, List.nodup_cons] at hnodup
    rcases List.mem_cons.1 ha with rfl | ha
    · have hrest : as.filter (f · = f a) = [] := by
        rw [List.filter_eq_nil_iff]
        intro c hc heq
        exact hnodup.1 (of_decide_eq_true heq ▸ List.mem_map_of_mem hc)
      rw [List.filter_cons_of_pos (by simp), hrest]
    · have hne : f b ≠ f a := fun heq => hnodup.1 (heq ▸ List.mem_map_of_mem ha)
      rw [List.filter_cons_of_neg (by simpa using hne), ih hnodup.2 ha]

/-- Tickets of outcomes are those of the readings. -/
theorem exists_reading {inputs : List Input} {readings : List Reading} {s : Run σ}
    (h : p.Conserved inputs readings s)
    (htickets : ItemOutcome.tickets s.outcomes = (readings.map Reading.tickets).sum)
    {o : ItemOutcome} (ho : o ∈ s.outcomes) :
    ∃ r ∈ readings, o.ticket ∈ r.tickets ∧ o.index = r.index ∧ o.input = r.input := by
  have hmem : o.ticket ∈ ItemOutcome.tickets s.outcomes :=
    Multiset.mem_coe.2 (List.mem_map_of_mem ho)
  rw [htickets, ← Multiset.sum_coe] at hmem
  obtain ⟨tickets, hin, hticket⟩ := Multiset.mem_join.1 hmem
  obtain ⟨r, hr, rfl⟩ := List.mem_map.1 (Multiset.mem_coe.1 hin)
  exact ⟨r, hr, hticket, (h.own r hr).2 _ hticket⟩

/-- Tickets of readings are those of outcomes. -/
theorem exists_outcome {readings : List Reading} {s : Run σ}
    (htickets : ItemOutcome.tickets s.outcomes = (readings.map Reading.tickets).sum)
    {r : Reading} (hr : r ∈ readings) {ticket : Ticket} (hticket : ticket ∈ r.tickets) :
    ∃ o ∈ s.outcomes, o.ticket = ticket := by
  have hmem : ticket ∈ ItemOutcome.tickets s.outcomes := by
    rw [htickets, ← Multiset.sum_coe]
    exact Multiset.mem_join.2 ⟨_, Multiset.mem_coe.2 (List.mem_map_of_mem hr), hticket⟩
  obtain ⟨o, ho, heq⟩ := List.mem_map.1 (Multiset.mem_coe.1 hmem)
  exact ⟨o, ho, heq⟩

/-- There is a reading for each input that was taken. -/
theorem Conserved.length_readings {inputs : List Input} {readings : List Reading} {s : Run σ}
    (h : p.Conserved inputs readings s) : readings.length = s.read := by
  have hcount := congrArg List.length h.indices
  rwa [List.length_map, List.length_range] at hcount

/-- The readings are those of the first inputs, in order. -/
theorem Conserved.getElem {inputs : List Input} {readings : List Reading} {s : Run σ}
    (h : p.Conserved inputs readings s) {k : Nat} (hk : k < readings.length) :
    readings[k].index = k ∧ inputs[k]? = some readings[k].input := by
  constructor
  · have hat : (readings.map (·.index))[k]? = (List.range s.read)[k]? := by rw [h.indices]
    rw [List.getElem?_map, List.getElem?_eq_getElem hk,
      List.getElem?_range (h.length_readings ▸ hk)] at hat
    exact Option.some.inj hat
  · rw [← h.inputs, List.getElem?_append_left (by rwa [List.length_map]), List.getElem?_map,
      List.getElem?_eq_getElem hk]
    rfl

/-- The one outcome of an input that could not be classified. -/
theorem Conserved.filter_failure {inputs : List Input} {readings : List Reading} {s : Run σ}
    (h : p.Conserved inputs readings s)
    (htickets : ItemOutcome.tickets s.outcomes = (readings.map Reading.tickets).sum)
    (htokens : (s.outcomes.map (·.token)).Nodup) {r : Reading} (hr : r ∈ readings) {e : Failure}
    (hresult : r.result = .error e) :
    ∃ o, s.outcomes.filter (·.index = r.index) = [o] ∧ o.input = r.input := by
  have hsingle : r.tickets = {⟨r.last + 1, r.index, r.input⟩} := by
    rw [Reading.tickets, hresult]
  have hindices : (readings.map (·.index)).Nodup := h.indices ▸ List.nodup_range
  obtain ⟨o, ho, heq⟩ := exists_outcome htickets hr (hsingle ▸ Multiset.mem_singleton_self _)
  refine ⟨o, ?_, congrArg Ticket.input heq⟩
  -- the outcomes of this input are those with its one token
  have hsame : ∀ o' ∈ s.outcomes, decide (o'.index = r.index) = decide (o'.token = o.token) := by
    intro o' ho'
    refine decide_eq_decide.2 ⟨fun hindex => ?_, fun htoken => ?_⟩
    · obtain ⟨r', hr', hticket, hindex', -⟩ := exists_reading h htickets ho'
      have hr'r : r' = r :=
        List.inj_on_of_nodup_map hindices hr' hr (hindex'.symm.trans hindex)
      rw [hr'r, hsingle, Multiset.mem_singleton] at hticket
      exact (congrArg Ticket.token hticket).trans (congrArg Ticket.token heq).symm
    · rw [List.inj_on_of_nodup_map htokens ho' ho htoken]
      exact congrArg Ticket.index heq
  rw [List.filter_congr hsame]
  exact filter_eq_singleton htokens ho

/-- A run that is over is accounted for when its items are conserved. -/
theorem Conserved.accounted {inputs : List Input} {readings : List Reading} {s : Run σ}
    (h : p.Conserved inputs readings s) (hp : 0 < p.options.parallelism)
    (hover : s.isOver = true) : Accounted inputs readings s := by
  have hworkers : s.workers ≠ [] := by
    rw [← List.length_pos_iff, h.workers]
    exact hp
  have hall := tickets_of_isOver h.tidy hworkers hover
  have htickets : ItemOutcome.tickets s.outcomes = (readings.map Reading.tickets).sum :=
    hall.symm.trans h.tickets
  have htokens : (s.outcomes.map (·.token)).Nodup := by
    have hnodup := h.tokens
    rw [hall, ItemOutcome.tickets, Multiset.map_coe, List.map_map] at hnodup
    exact hnodup
  exact {
    taken := by
      rw [← h.inputs, List.take_left']
      rw [List.length_map, h.length_readings]
    indices := h.indices
    tickets := htickets
    items := by
      intro r hr items hresult item hitem
      -- the ticket of the item is among those that came in, so it is that of an outcome
      have hticket : item.ticket ∈ r.tickets := by
        rw [Reading.tickets, hresult]
        exact Multiset.mem_coe.2 (List.mem_map_of_mem hitem)
      obtain ⟨hindex, hinput⟩ := (h.own r hr).2 _ hticket
      obtain ⟨o, ho, heq⟩ := exists_outcome htickets hr hticket
      have htoken : o.token = item.token := congrArg Ticket.token heq
      refine ⟨hindex, hinput, o, ?_, congrArg Ticket.index heq, congrArg Ticket.input heq⟩
      rw [← htoken]
      exact filter_eq_singleton htokens ho
    failures := fun r hr e hresult => h.filter_failure htickets htokens hr hresult
    reached := by
      intro k hk
      rw [← h.length_readings] at hk
      have hr := List.getElem_mem hk
      obtain ⟨hne, hown⟩ := h.own _ hr
      obtain ⟨ticket, hticket⟩ := Multiset.exists_mem_of_ne_zero hne
      obtain ⟨o, ho, heq⟩ := exists_outcome htickets hr hticket
      refine ⟨o, ho, ?_⟩
      rw [← (h.getElem hk).1, ← (hown ticket hticket).1, ← heq]
      rfl
    tokens := htokens
    read := by
      intro o ho
      obtain ⟨r, hr, -, hindex, hinput⟩ := exists_reading h htickets ho
      obtain ⟨k, hk, rfl⟩ := List.mem_iff_getElem.1 hr
      obtain ⟨hat, hinputs⟩ := h.getElem hk
      rw [hindex, hinput, hat]
      exact ⟨h.length_readings ▸ hk, hinputs⟩ }

/-- Valid options let at least one batch be sent at a time. -/
theorem parallelism_pos {o : WriteOptions} (h : o.validate = .ok ()) : 0 < o.parallelism := by
  unfold WriteOptions.validate at h
  split at h
  · exact nomatch h
  · rename_i hnone
    have hrules := List.find?_eq_none.1 hnone
    -- the second rule is the one about the number of workers
    have hsecond := hrules _ (List.mem_cons_of_mem _ List.mem_cons_self)
    exact Nat.pos_of_ne_zero fun hzero => hsecond (beq_iff_eq.2 hzero)

/-- **No item is lost and none is doubled.** However the steps of the producer, the workers and
the service are ordered, whatever the service answers, and whenever the run is cancelled: once
all is done, the outcomes account for the inputs that were read. -/
theorem accounted_of_interleaving {p : Pipeline σ} {w : World σ} {cancelAt : Option Nat}
    {inputs : List Input} {readings : List Reading} {s : Run σ}
    (hoptions : p.options.validate = .ok ())
    (hrun : p.Interleaving { p.start w inputs with cancelAt } readings s)
    (hover : s.isOver = true) : Accounted inputs readings s :=
  (conserved_interleaving hrun).accounted (parallelism_pos hoptions) hover

/-- A service that refuses every request. -/
def refusing : Service Unit where
  metadata _ := throw (.of (.remoteFault ⟨1, "refused"⟩ false))
  query _ := throw (.of (.remoteFault ⟨1, "refused"⟩ false))
  retrieve _ _ _ := throw (.of (.remoteFault ⟨1, "refused"⟩ false))
  executeAll requests := return requests.map fun _ => .error ⟨1, "refused"⟩
  execute _ := throw (.of (.remoteFault ⟨1, "refused"⟩ false))

/-- A pipeline into a service that refuses every request. -/
def refused : Pipeline Unit :=
  ⟨refusing, .ofName "note", { WriteOptions.standard with batchSize := 1 }, 0, fun _ => false⟩

/-- A new record, and one whose identity is none. -/
def refusedInputs : List Input :=
  [⟨.ofList []⟩, ⟨.ofList [("Id", .loose (.bool true))]⟩]

/-- A run that is cancelled after it has read a new record and one whose identity is none. -/
theorem accounted_of_interleaving_refused :
    ∃ readings s,
      refused.Interleaving { refused.start ⟨(), []⟩ refusedInputs with cancelAt := none }
        readings s ∧
      s.isOver = true ∧ readings.length = 2 ∧ Accounted refusedInputs readings s := by
  have h₀ : refused.Interleaving
      { refused.start ⟨(), []⟩ refusedInputs with cancelAt := none } [] _ := .start
  have h₁ := h₀.next (.read (.inl ⟨rfl, rfl⟩) rfl rfl nofun)
  have h₂ := h₁.next (.produce rfl rfl)
  have h₃ := h₂.next (.produce rfl rfl)
  have h₄ := h₃.next (.receive (show [_][0]? = _ from rfl) rfl)
  have h₅ := h₄.next (.answer (show [_][0]? = _ from rfl) rfl)
  have h₆ := h₅.next (.produce rfl rfl)
  have h₇ := h₆.next (.read (.inl ⟨rfl, rfl⟩) rfl rfl nofun)
  have h₈ := h₇.next (.cancel _)
  have h₉ := h₈.next (.produce rfl rfl)
  have h := h₉.next (.receive (show [_][0]? = _ from rfl) rfl)
  exact ⟨_, _, h, rfl, rfl, accounted_of_interleaving rfl h rfl⟩

/-- A scheduled run accounts for all inputs that it has read, unless one of its tasks breaks
off. -/
theorem accounted_run {p : Pipeline σ} {w : World σ} {cancelAt : Option Nat}
    {inputs : List Input} (hoptions : p.options.validate = .ok ())
    (hb : ∀ readings t, p.Interleaving { p.start w inputs with cancelAt } readings t →
      ∀ a, ¬p.Breaks t a) :
    ∃ readings, Accounted inputs readings (p.run { p.start w inputs with cancelAt }) := by
  obtain ⟨readings, hrun⟩ := interleaving_run hb
  have hp := parallelism_pos hoptions
  exact ⟨readings, (conserved_interleaving hrun).accounted hp (isOver_run hp _)⟩

end RecordService.Pipeline
