import RecordService.Proofs.Pipeline.Classification
import RecordService.Proofs.Pipeline.Effects

namespace RecordService.Pipeline

/-!
# Requests are applied at most once

A run writes into a store. While it goes on, faults may be injected into the store, the run may be
cancelled, and the producer may break off. In any order of steps, an item that succeeded was
applied once, with the answer of its outcome, and an item that failed was never applied, however
often either was sent.

* `StoreStep`: a step of a run into a store, with what the store applies in it.
* `Recorded`: the runs in any order of steps, with the log of all applications.
* `Attributed`, `attributed_step`: what every step keeps.
* `AppliedOnce`: how the applications of a run correspond to its outcomes.
* `appliedOnce_of_recorded`: every run applies requests at most once.
-/

/-! ### Runs into a store -/

/-- A run after a change of the state of the service. -/
def Run.change {σ : Type} (s : Run σ) (f : σ → σ) : Run σ :=
  { s with world := { s.world with state := f s.world.state } }

/-- A step of a run into a store, with the input that is read in it and the applications that it
makes. A store answers every call, so that only the producer can break off. -/
inductive StoreStep (p : Pipeline Store) :
    Run Store → Option Reading → List Application → Run Store → Prop where
  /-- The store answers a worker. -/
  | answer {s t : Run Store} {id : Nat} {items : List WriteItem} {results : List SubmitResult}
      (hw : s.workers[id]? = some (.calling items))
      (hcall : p.submission s items = (.ok results, t)) :
      StoreStep p s none (s.world.state.applied items) (p.submitted t id items (.ok results))
  /-- Something else is done, in which no worker is answered. -/
  | other {s t : Run Store} {r : Option Reading} (hstep : p.Step s r t)
      (hcalling : s.KeepsCalling t) : StoreStep p s r [] t
  /-- The producer breaks off. -/
  | broke {s : Run Store} (hbreaks : p.Breaks s .producer) :
      StoreStep p s none [] (p.act s .producer)
  /-- The store is told to refuse the next requests. -/
  | refuseRequests (s : Run Store) (fault : Fault) (count : Nat) :
      StoreStep p s none [] (s.change (·.refuseRequests fault count))
  /-- The store is told to refuse the next calls as a whole. -/
  | refuseCalls (s : Run Store) (fault : Fault) (count : Nat) :
      StoreStep p s none [] (s.change (·.refuseCalls fault count))

/-- The runs into a store that come of any order of steps, with the inputs that were read and the
log of all applications. -/
inductive Recorded (p : Pipeline Store) (s : Run Store) :
    List Reading → List Application → Run Store → Prop where
  | start : Recorded p s [] [] s
  | next {readings : List Reading} {log applied : List Application} {t u : Run Store}
      {r : Option Reading} (run : Recorded p s readings log t)
      (step : p.StoreStep t r applied u) :
      Recorded p s (readings ++ r.toList) (log ++ applied) u

variable {p : Pipeline Store}

/-- The classification of an input writes nothing into a store. -/
theorem tables_classification (hservice : p.service = Store.service) (s : Run Store) (i : Input)
    (rest : List Input) :
    (p.classification s i rest).2.world.state.tables = s.world.state.tables := by
  let Same : World Store → Prop := fun w => w.state.tables = s.world.state.tables
  have hquery : ∀ q, (p.service.query q).Keeps Same := by
    intro q w hw
    rw [hservice]
    obtain ⟨journal, hquery⟩ := Store.runOn_query w q
    show (Call.runOn w (Store.query q)).2.state.tables = _
    rw [hquery]
    exact hw
  exact Classifier.keeps_items hquery (fun _ _ h => h) _ _ _ _ s.world rfl

/-- A producer that breaks off drops what it has read and not passed on. Nothing is written. -/
theorem act_of_breaks (hservice : p.service = Store.service) {s : Run Store}
    (h : p.Breaks s .producer) :
    s.CanRead ∧ ∃ rest world cancelled, world.state.tables = s.world.state.tables ∧
      p.act s .producer = breakProducer { s with inputs := rest, world, cancelled } := by
  obtain ⟨i, rest, hup, hbreach⟩ := h
  have hact : p.act s .producer =
      p.classified (p.classification s i rest).2 i (p.classification s i rest).1 :=
    produce_of_upcoming hup
  obtain ⟨world, cancelled, hcall⟩ : ∃ world cancelled,
      (p.classification s i rest).2 = { s with inputs := rest, world, cancelled } := ⟨_, _, rfl⟩
  have htables := tables_classification hservice s i rest
  rw [hcall] at htables
  refine ⟨(canRead_of_upcoming hup).1, rest, world, cancelled, htables, ?_⟩
  rw [hact, ← hcall]
  cases hanswer : (p.classification s i rest).1 with
  | error e => rfl
  | ok answer =>
    obtain ⟨result, last⟩ := answer
    rw [hbreach result last hanswer]
    rfl

/-! ### Tokens -/

/-- Where the tickets of a run come from: they were brought in by the inputs, whose tokens are all
different. Those of items that were dropped are missing. -/
structure Ticketed {σ : Type} (readings : List Reading) (s : Run σ) : Prop where
  tidy : s.Tidy
  present : s.tickets ≤ (readings.map Reading.tickets).sum
  given : ∀ ticket ∈ (readings.map Reading.tickets).sum, ticket.token ≤ s.lastToken
  tokens : ((readings.map Reading.tickets).sum.map (·.token)).Nodup

/-- At the start no input has brought in a ticket. -/
theorem ticketed_start {σ : Type} {p : Pipeline σ} (w : World σ) (cancelAt : Option Nat)
    (inputs : List Input) : Ticketed [] ({ p.start w inputs with cancelAt } : Run σ) where
  tidy := (conserved_start (p := p) w cancelAt inputs).tidy
  present := (conserved_start (p := p) w cancelAt inputs).tickets.le
  given := fun _ h => absurd h (Multiset.notMem_zero _)
  tokens := Multiset.nodup_zero

/-- The tokens of an input that is read were not given before. -/
theorem tokens_read {σ : Type} {p : Pipeline σ} {s t : Run σ} {r : Reading}
    (hstep : p.Step s (some r) t) :
    s.lastToken ≤ t.lastToken ∧ (r.tickets.map (·.token)).Nodup ∧
      ∀ ticket ∈ r.tickets, s.lastToken < ticket.token ∧ ticket.token ≤ t.lastToken := by
  obtain ⟨hindex, -, hextent, w, w', hrun⟩ := extent_read hstep
  simp only [Run.extent, Prod.mk.injEq, true_and] at hextent
  rw [← hindex] at hrun
  obtain ⟨⟨k, n, hk, -, hlast, htokens⟩, -⟩ := Reading.tickets_spec hrun
  refine ⟨by omega, ?_, fun ticket hmem => ?_⟩
  · rw [htokens]
    exact List.nodup_range'
  · have htoken := Multiset.mem_map_of_mem (·.token) hmem
    rw [htokens, Multiset.mem_coe, List.mem_range'_1] at htoken
    omega

/-- A step keeps the tokens apart. -/
theorem Ticketed.step {σ : Type} {p : Pipeline σ} {readings : List Reading} {s t : Run σ}
    {r : Option Reading} (h : Ticketed readings s) (hstep : p.Step s r t) :
    Ticketed (readings ++ r.toList) t := by
  have htickets := tickets_step h.tidy hstep
  cases r with
  | none =>
    have hextent := extent_step hstep
    simp only [Run.extent, Prod.mk.injEq] at hextent
    rw [Option.toList_none, List.append_nil]
    exact ⟨tidy_step h.tidy hstep, (htickets.trans (add_zero _)).le.trans h.present,
      hextent.2.2.1 ▸ h.given, h.tokens⟩
  | some r =>
    obtain ⟨hle, hnodup, hnew⟩ := tokens_read hstep
    have hsum : ((readings ++ [r]).map Reading.tickets).sum =
        (readings.map Reading.tickets).sum + r.tickets := by
      rw [List.map_append, List.sum_append, List.map_singleton, List.sum_singleton]
    rw [Option.toList_some]
    refine ⟨tidy_step h.tidy hstep, ?_, ?_, ?_⟩
    · rw [hsum, htickets]
      exact add_le_add_left h.present _
    · rw [hsum]
      intro ticket hmem
      rcases Multiset.mem_add.1 hmem with hmem | hmem
      · exact (h.given ticket hmem).trans hle
      · exact (hnew ticket hmem).2
    · rw [hsum, Multiset.map_add, Multiset.nodup_add]
      -- new tokens come after the last one that was given, so they are none of the old ones
      refine ⟨h.tokens, hnodup, ?_⟩
      rw [Multiset.disjoint_left]
      intro token hold hmem
      obtain ⟨ticket, hticket, rfl⟩ := Multiset.mem_map.1 hold
      obtain ⟨other, hother, heq⟩ := Multiset.mem_map.1 hmem
      have hgiven := h.given ticket hticket
      have hlater := (hnew other hother).1
      omega

/-- A producer that breaks off drops tickets and brings none in. -/
theorem Ticketed.broke {σ : Type} {readings : List Reading} {s : Run σ}
    (h : Ticketed readings s) (hread : s.CanRead) (rest : List Input) (world : World σ)
    (cancelled : Bool) :
    Ticketed readings (breakProducer { s with inputs := rest, world, cancelled }) := by
  have hdrop : (breakProducer { s with inputs := rest, world, cancelled }).tickets +
      WriteItem.tickets s.batch = s.tickets := by
    simp only [breakProducer, Run.tickets_note]
    simp only [Run.tickets, hread.tickets_producer, Producer.tickets_finished,
      WriteItem.tickets_nil]
    abel
  exact {
    tidy := ⟨fun _ _ => rfl, fun _ => rfl,
      fun hgone => absurd hgone (h.tidy.gone_notMem hread.ne_finished)⟩
    present := (hdrop ▸ Multiset.le_add_right _ _).trans h.present
    given := h.given
    tokens := h.tokens }

/-- The items that some inputs were classified to. -/
def classifiedItems (readings : List Reading) : List WriteItem :=
  readings.flatMap Reading.items

/-- Among the tickets of the readings are those of the items that were classified. -/
theorem tickets_classifiedItems (readings : List Reading) :
    WriteItem.tickets (classifiedItems readings) ≤ (readings.map Reading.tickets).sum := by
  induction readings with
  | nil => exact le_rfl
  | cons r readings ih =>
    have hone : WriteItem.tickets r.items ≤ r.tickets := by
      unfold Reading.items Reading.tickets
      cases r.result with
      | ok items => exact le_rfl
      | error e => exact Multiset.zero_le _
    rw [List.map_cons, List.sum_cons, classifiedItems, List.flatMap_cons,
      WriteItem.tickets_append]
    exact add_le_add hone ih

/-- No two items have the same token. -/
theorem Ticketed.items_nodup {σ : Type} {readings : List Reading} {s : Run σ}
    (h : Ticketed readings s) : ((classifiedItems readings).map (·.token)).Nodup := by
  have hle := Multiset.map_le_map (f := (·.token)) (tickets_classifiedItems readings)
  have hnodup := Multiset.nodup_of_le hle h.tokens
  rwa [WriteItem.tickets, Multiset.map_coe, List.map_map, Multiset.coe_nodup] at hnodup

/-- No two outcomes have the same token. -/
theorem Ticketed.outcomes_nodup {σ : Type} {readings : List Reading} {s : Run σ}
    (h : Ticketed readings s) : (s.outcomes.map (·.token)).Nodup := by
  have hle : ItemOutcome.tickets s.outcomes ≤ (readings.map Reading.tickets).sum :=
    (Multiset.le_add_left _ _).trans h.present
  have hnodup := Multiset.nodup_of_le (Multiset.map_le_map (f := (·.token)) hle) h.tokens
  rwa [ItemOutcome.tickets, Multiset.map_coe, List.map_map, Multiset.coe_nodup] at hnodup

/-- Records are written only when a worker is answered. -/
theorem tables_step (hservice : p.service = Store.service) {s t : Run Store} {r : Option Reading}
    (hstep : p.Step s r t) (hcalling : s.KeepsCalling t) :
    t.world.state.tables = s.world.state.tables := by
  cases hstep with
  | pass => rfl
  | cancel => rfl
  | @read u i rest result last hread hinputs hcall hresult =>
    have houtside := congrArg (·.1.tables) (outside_classified (p := p) u i last hresult)
    rw [← tables_classification hservice s i rest, hcall]
    exact houtside
  | produce hdue hnone =>
    exact congrArg (·.1.tables) (outside_passing (passing_produce hdue hnone))
  | receive => exact congrArg (·.1.tables) (outside_receive s _)
  | answer hw hcall => exact absurd (hcalling _ _ hw) (getElem?_submitted hw hcall)
  | wake => exact congrArg (·.1.tables) (outside_wake s _ _)

/-! ### What every step keeps -/

/-- Whether an input was classified to a request under a token. -/
def Classified (readings : List Reading) (token : Nat) (request : WriteRequest) : Prop :=
  ∃ i ∈ classifiedItems readings, i.token = token ∧ i.request = request

/-- What was classified stays so as more inputs are read. -/
theorem Classified.append {readings : List Reading} {token : Nat} {request : WriteRequest}
    (h : Classified readings token request) (more : List Reading) :
    Classified (readings ++ more) token request := by
  obtain ⟨i, hi, hown⟩ := h
  refine ⟨i, ?_, hown⟩
  rw [classifiedItems, List.flatMap_append]
  exact List.mem_append_left _ hi

/-- The items of the input that is read last were classified. -/
theorem classified_read (readings : List Reading) {r : Reading} {i : WriteItem}
    (hi : i ∈ r.items) : Classified (readings ++ [r]) i.token i.request := by
  refine ⟨i, ?_, rfl, rfl⟩
  rw [classifiedItems, List.flatMap_append, List.flatMap_singleton]
  exact List.mem_append_right _ hi

/-- How the log of a run corresponds to what is on its way and to the outcomes. -/
structure Attributed (tables : Tables) (readings : List Reading) (log : List Application)
    (s : Run Store) : Prop where
  ticketed : Ticketed readings s
  /-- What is still to be answered was classified. -/
  pending : ∀ i ∈ s.pending, Classified readings i.token i.request
  /-- What was applied was classified. -/
  requests : ∀ a ∈ log, Classified readings a.token a.request
  /-- The items that succeeded are those that were applied. -/
  answers : s.answers = log.map Application.answer
  /-- The records that were written are those of the log. -/
  replays : Replays tables log s.world.state.tables

/-- At the start nothing was applied, and nothing is to be answered. -/
theorem attributed_start (w : World Store) (cancelAt : Option Nat) (inputs : List Input) :
    Attributed w.state.tables [] [] { p.start w inputs with cancelAt } where
  ticketed := ticketed_start w cancelAt inputs
  pending := by
    intro i hi
    rcases List.mem_append.1 hi with hi | hi
    · obtain ⟨worker, hworker, hi⟩ := List.mem_flatMap.1 hi
      rw [List.eq_of_mem_replicate hworker] at hi
      exact nomatch hi
    · exact nomatch hi
  requests := fun _ h => absurd h List.not_mem_nil
  answers := rfl
  replays := rfl

/-- What is on its way after a step of the run was classified. -/
theorem Attributed.pending_step {tables : Tables} {readings : List Reading}
    {log : List Application} {s t : Run Store} {r : Option Reading}
    (h : Attributed tables readings log s) (hstep : p.Step s r t) :
    ∀ i ∈ t.pending, Classified (readings ++ r.toList) i.token i.request := by
  refine forall_pending_step (P := fun i => Classified (readings ++ r.toList) i.token i.request)
    (fun _ h => h) hstep h.ticketed.tidy (fun i hi => (h.pending i hi).append _) ?_
  intro r' hr i hi
  cases hr
  exact classified_read readings hi

/-- What becomes of the pending faults makes no difference. -/
theorem Attributed.change {tables : Tables} {readings : List Reading} {log : List Application}
    {s : Run Store} (h : Attributed tables readings log s) {f : Store → Store}
    (htables : (f s.world.state).tables = s.world.state.tables) :
    Attributed tables readings log (s.change f) where
  ticketed :=
    ⟨⟨h.ticketed.tidy.closing, h.ticketed.tidy.finished, h.ticketed.tidy.gone⟩,
      h.ticketed.present, h.ticketed.given, h.ticketed.tokens⟩
  pending := h.pending
  requests := h.requests
  answers := h.answers
  replays := by
    show Replays _ _ (f s.world.state).tables
    rw [htables]
    exact h.replays

/-- **Invariant.** Every step keeps the log attributed. -/
theorem attributed_step (hservice : p.service = Store.service) {tables : Tables}
    {readings : List Reading} {log applied : List Application} {s t : Run Store}
    {r : Option Reading} (h : Attributed tables readings log s)
    (hstep : p.StoreStep s r applied t) :
    Attributed tables (readings ++ r.toList) (log ++ applied) t := by
  cases hstep with
  -- the only step that adds to the log: what was applied is what the store answered
  | @answer u id items results hw hcall =>
    have hstep : p.Step s none (p.submitted u id items (.ok results)) := .answer hw hcall
    have hsubmitted := submitted_of_submission hservice hcall
    have hanswers := Submission.answers_settle p.entity.name hsubmitted
    have hreplays := Submission.replays_applied hsubmitted
    have hsame : u.answers = s.answers := by
      obtain ⟨world, cancelled, rfl⟩ := eq_of_submission hcall
      rfl
    refine ⟨h.ticketed.step hstep, h.pending_step hstep, ?_, ?_, ?_⟩
    · intro a ha
      rcases List.mem_append.1 ha with ha | ha
      · exact (h.requests a ha).append _
      · obtain ⟨i, hi, htoken, hrequest⟩ := Store.mem_applied ha
        rw [htoken, hrequest]
        exact (h.pending i (mem_pending_of_worker hw hi)).append _
    · show Run.answers (p.settled u id _) = _
      rw [answers_settled, hsame, hanswers, h.answers, List.map_append]
    · have houtside := congrArg (·.1.tables) (outside_settled (p := p) u id
        (Submission.settle p.entity.name p.options items results))
      exact h.replays.append (houtside ▸ hreplays)
  | other hstep hcalling =>
    rw [List.append_nil]
    refine ⟨h.ticketed.step hstep, h.pending_step hstep, fun a ha => (h.requests a ha).append _,
      (answers_step hstep hcalling).trans h.answers, ?_⟩
    rw [tables_step hservice hstep hcalling]
    exact h.replays
  | broke hbreaks =>
    obtain ⟨hread, rest, world, cancelled, htables, hact⟩ := act_of_breaks hservice hbreaks
    rw [hact, Option.toList_none, List.append_nil, List.append_nil]
    refine ⟨h.ticketed.broke hread rest world cancelled, ?_, h.requests, h.answers, ?_⟩
    · -- what the workers and the queue have is left
      intro i hi
      refine h.pending i ((List.Sublist.append_left ?_ _).subset hi)
      refine List.Sublist.map _ ?_
      show (s.queue.flatten ++ []).Sublist _
      exact (List.nil_sublist _).append_left _
    · show Replays _ _ world.state.tables
      rw [htables]
      exact h.replays
  | refuseRequests fault count =>
    rw [Option.toList_none, List.append_nil, List.append_nil]
    exact h.change rfl
  | refuseCalls fault count =>
    rw [Option.toList_none, List.append_nil, List.append_nil]
    exact h.change rfl

/-- Every run keeps the log attributed. -/
theorem attributed_of_recorded (hservice : p.service = Store.service) {w : World Store}
    {cancelAt : Option Nat} {inputs : List Input} {readings : List Reading}
    {log : List Application} {s : Run Store}
    (h : p.Recorded { p.start w inputs with cancelAt } readings log s) :
    Attributed w.state.tables readings log s := by
  induction h with
  | start => exact attributed_start w cancelAt inputs
  | next _ hstep ih => exact attributed_step hservice ih hstep

/-! ### Outcomes and applications -/

/-- How the applications of a run correspond to its outcomes. -/
structure AppliedOnce (tables : Tables) (readings : List Reading) (log : List Application)
    (s : Run Store) : Prop where
  /-- The request of an item that succeeded was applied once, with the answer that its outcome
  carries, and one record was written, under that identity. -/
  succeeded : ∀ i ∈ classifiedItems readings, ∀ o ∈ s.outcomes, o.token = i.token →
    ∀ id created output, o.outcome = .succeeded id created output →
      ∃ a, log.filter (·.token = i.token) = [a] ∧ a.request = i.request ∧
        a.response = ⟨id, created⟩ ∧
        ∃ e r, r.id = some id ∧ a.after.tables = a.before.tables.put e r
  /-- The request of an item that failed was not applied. -/
  failed : ∀ i ∈ classifiedItems readings, ∀ o ∈ s.outcomes, o.token = i.token →
    ∀ e retryable, o.outcome = .failed e retryable → log.filter (·.token = i.token) = []
  /-- Nothing was applied but the requests of items. -/
  own : ∀ a ∈ log, ∃ i ∈ classifiedItems readings, i.token = a.token ∧ i.request = a.request
  /-- Nothing was written but what was applied. -/
  replays : Replays tables log s.world.state.tables

/-- The answers of a run come from its outcomes. -/
theorem mem_answers {s : Run Store} {x : Nat × WriteResponse} :
    x ∈ s.answers ↔ ∃ o ∈ s.outcomes, o.answer? = some x := by
  simp only [Run.answers, List.mem_filterMap, List.mem_reverse]

/-- An answer is told under the token of its item. -/
theorem token_of_answer? {o : ItemOutcome} {x : Nat × WriteResponse} (h : o.answer? = some x) :
    o.token = x.1 := by
  unfold ItemOutcome.answer? at h
  split at h
  · exact congrArg Prod.fst (Option.some.inj h)
  · exact nomatch h

/-- No two applications are of the same item. -/
theorem Attributed.log_nodup {tables : Tables} {readings : List Reading} {log : List Application}
    {s : Run Store} (h : Attributed tables readings log s) : (log.map (·.token)).Nodup := by
  have hlog : log.map (·.token) = s.answers.map Prod.fst := by
    rw [h.answers, List.map_map]
    rfl
  -- the tokens of the answers are among those of the outcomes, in order
  have hsub : ∀ outcomes : List ItemOutcome,
      ((outcomes.filterMap ItemOutcome.answer?).map Prod.fst).Sublist
        (outcomes.map (·.token)) := by
    intro outcomes
    induction outcomes with
    | nil => exact List.Sublist.refl _
    | cons o outcomes ih =>
      cases ho : o.answer? with
      | none =>
        rw [List.filterMap_cons_none ho]
        exact ih.cons _
      | some x =>
        rw [List.filterMap_cons_some ho, List.map_cons, List.map_cons, token_of_answer? ho]
        exact ih.cons_cons _
  rw [hlog]
  refine (hsub s.outcomes.reverse).nodup ?_
  rw [List.map_reverse, List.nodup_reverse]
  exact h.ticketed.outcomes_nodup

/-- An attributed log applies every request at most once. -/
theorem Attributed.appliedOnce {tables : Tables} {readings : List Reading}
    {log : List Application} {s : Run Store} (h : Attributed tables readings log s) :
    AppliedOnce tables readings log s where
  own := h.requests
  replays := h.replays
  succeeded := by
    intro i hi o ho htoken id created output houtcome
    have hanswer : o.answer? = some (i.token, ⟨id, created⟩) := by
      rw [ItemOutcome.answer?, houtcome, htoken]
    have hmem : (i.token, (⟨id, created⟩ : WriteResponse)) ∈ log.map Application.answer := by
      rw [← h.answers]
      exact mem_answers.2 ⟨o, ho, hanswer⟩
    obtain ⟨a, ha, heq⟩ := List.mem_map.1 hmem
    have htoken' : a.token = i.token := congrArg Prod.fst heq
    have hresponse : a.response = ⟨id, created⟩ := congrArg Prod.snd heq
    -- the item that it was applied for is the one with the token
    obtain ⟨j, hj, hjtoken, hjrequest⟩ := h.requests a ha
    have hji : j = i :=
      List.inj_on_of_nodup_map h.ticketed.items_nodup hj hi (hjtoken.trans htoken')
    obtain ⟨e, r, -, hid, hput⟩ := a.put
    rw [hresponse] at hid
    refine ⟨a, ?_, hji ▸ hjrequest.symm, hresponse, e.name, r, hid, hput⟩
    rw [← htoken']
    exact filter_eq_singleton h.log_nodup ha
  failed := by
    intro i hi o ho htoken e retryable houtcome
    refine List.filter_eq_nil_iff.2 fun a ha hsame => ?_
    have hmem : a.answer ∈ s.answers := by
      rw [h.answers]
      exact List.mem_map_of_mem ha
    obtain ⟨o', ho', hanswer⟩ := mem_answers.1 hmem
    -- the outcome that succeeded would be the one that failed
    have htoken' : o'.token = o.token :=
      ((token_of_answer? hanswer).trans (of_decide_eq_true hsame)).trans htoken.symm
    have hoo : o' = o := List.inj_on_of_nodup_map h.ticketed.outcomes_nodup ho' ho htoken'
    rw [hoo, ItemOutcome.answer?, houtcome] at hanswer
    exact nomatch hanswer

/-- **Requests are applied at most once.** However the steps of a run into a store are ordered,
whatever faults are injected and whenever the run is cancelled: an item that succeeded was applied
once, with the answer of its outcome, and an item that failed was not applied. -/
theorem appliedOnce_of_recorded {p : Pipeline Store} (hservice : p.service = Store.service)
    {w : World Store} {cancelAt : Option Nat} {inputs : List Input} {readings : List Reading}
    {log : List Application} {s : Run Store}
    (hrun : p.Recorded { p.start w inputs with cancelAt } readings log s) :
    AppliedOnce w.state.tables readings log s :=
  (attributed_of_recorded hservice hrun).appliedOnce

/-- A pipeline into a store that sends two notes at a time, and each of them twice at most. -/
def twoNotes : Pipeline Store where
  service := Store.service
  entity := .ofName "note"
  options := { WriteOptions.standard with batchSize := 2, retries := 1, transientCodes := [1] }
  gap := 0
  cancels := fun _ => false

/-- A store that refuses one request. -/
def busyStore : Store :=
  (Store.ofEntities [.ofName "note"]).refuseRequests ⟨1, "busy"⟩ 1

/-- A run in which the first of two notes is refused and sent again. -/
theorem appliedOnce_of_recorded_retried :
    ∃ readings log s,
      twoNotes.Recorded
        { twoNotes.start ⟨busyStore, []⟩ [⟨.ofList []⟩, ⟨.ofList []⟩] with cancelAt := none }
        readings log s ∧
      log.map (·.token) = [2, 1] ∧ s.outcomes.map (·.attempts) = [2, 1] ∧
      AppliedOnce busyStore.tables readings log s := by
  have h₀ : twoNotes.Recorded
      { twoNotes.start ⟨busyStore, []⟩ [⟨.ofList []⟩, ⟨.ofList []⟩] with cancelAt := none }
      [] [] _ := .start
  have h₁ := h₀.next (.other (.read (.inl ⟨rfl, rfl⟩) rfl rfl nofun) (.of_workers rfl))
  have h₂ := h₁.next (.other (.produce rfl rfl) (.of_workers rfl))
  have h₃ := h₂.next (.other (.produce rfl rfl) (.of_workers rfl))
  have h₄ := h₃.next (.other (.read (.inl ⟨rfl, rfl⟩) rfl rfl nofun) (.of_workers rfl))
  have h₅ := h₄.next (.other (.produce rfl rfl) (.of_workers rfl))
  have h₆ := h₅.next (.other (.produce rfl rfl) (.of_workers rfl))
  have h₇ := h₆.next (.other (.receive (Run.worker_of_singleton rfl) rfl)
    (keepsCalling_receive (Run.worker_of_singleton rfl)))
  have h₈ := h₇.next (.answer (Run.worker_of_singleton rfl) rfl)
  have h₉ := h₈.next (.other (.wake (Run.worker_of_singleton rfl))
    (keepsCalling_wake (Run.worker_of_singleton rfl)))
  have h := h₉.next (.answer (Run.worker_of_singleton rfl) rfl)
  exact ⟨_, _, _, h, rfl, rfl, appliedOnce_of_recorded rfl h⟩

/-! ### Every run is recorded -/

/-- Every step of a run is one of a run into a store. -/
theorem storeStep_of_step {s t : Run Store} {r : Option Reading} (hstep : p.Step s r t) :
    ∃ applied, p.StoreStep s r applied t := by
  cases hstep with
  | pass time => exact ⟨[], .other (.pass s time) (.of_workers rfl)⟩
  | cancel => exact ⟨[], .other (.cancel s) (.of_workers rfl)⟩
  | read hread hinputs hcall hresult =>
    have hstep := Step.read hread hinputs hcall hresult
    exact ⟨[], .other hstep (.of_workers (queued_read hstep).2)⟩
  | produce hdue hnone =>
    have hworkers := workers_passing (passing_produce hdue hnone)
    exact ⟨[], .other (.produce hdue hnone) (.of_workers hworkers)⟩
  | receive hw hdue => exact ⟨[], .other (.receive hw hdue) (keepsCalling_receive hw)⟩
  | answer hw hcall => exact ⟨_, .answer hw hcall⟩
  | wake hw => exact ⟨[], .other (.wake hw) (keepsCalling_wake hw)⟩

/-- Whatever an actor does who can act is a step of a run into a store, also if it breaks off. -/
theorem storeStep_of_due (hservice : p.service = Store.service) {s : Run Store} {a : Actor}
    (h : (p.due? s a).isSome) : ∃ r applied, p.StoreStep s r applied (p.act s a) := by
  by_cases hb : p.Breaks s a
  · cases a with
    | producer => exact ⟨none, [], .broke hb⟩
    | canceller => exact hb.elim
    | worker id => exact absurd hb (not_breaks_worker hservice s id)
  · obtain ⟨r, hstep⟩ := step_of_due h hb
    obtain ⟨applied, hstep⟩ := storeStep_of_step hstep
    exact ⟨r, applied, hstep⟩

/-- Every interleaving is recorded with some log. -/
theorem recorded_of_interleaving {s t : Run Store} {readings : List Reading}
    (h : p.Interleaving s readings t) : ∃ log, p.Recorded s readings log t := by
  induction h with
  | start => exact ⟨[], .start⟩
  | next _ hstep ih =>
    obtain ⟨log, hrun⟩ := ih
    obtain ⟨applied, hstep⟩ := storeStep_of_step hstep
    exact ⟨log ++ applied, hrun.next hstep⟩

/-- The scheduled run into a store is recorded. -/
theorem recorded_run (hservice : p.service = Store.service) (s : Run Store) :
    ∃ readings log, p.Recorded s readings log (p.run s) := by
  suffices hrun : ∀ readings log t, p.Recorded s readings log t →
      ∃ readings' log', p.Recorded s readings' log' (p.run t) from hrun [] [] s .start
  intro readings log t
  induction t using run.induct p generalizing readings log with
  | case1 t hnext =>
    intro h
    rw [run, hnext]
    exact ⟨readings, log, h⟩
  | case2 t a time hnext ih =>
    intro h
    have hdue : (p.due? (t.at time) a).isSome := by
      rw [due?_at_isSome, due?_of_next? hnext]
      rfl
    have hpass : p.StoreStep t none [] (t.at time) := .other (.pass t time) (.of_workers rfl)
    obtain ⟨r, applied, hstep⟩ := storeStep_of_due hservice hdue
    rw [run, hnext]
    exact ih _ _ ((h.next hpass).next hstep)

end RecordService.Pipeline
