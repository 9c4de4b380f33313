import RecordService.Proofs.Pipeline.Workers

namespace RecordService

/-!
# How a batch is retried

A worker sends a batch, and then again and again what is left of it: the items that all answers so
far have put off. The number of rounds is bounded by the attempts that an item may have, and in each
of them an item has a place of its own, which need not be the one that it had before.

* `Submission.Answered`, `Submission.answered_of_submit`: the results of a call by what the service
  answers.
* `Submission.settleByToken`, `Submission.settleByToken_eq`: results that are matched to items by
  token.
* `Pipeline.Round`, `Pipeline.Processing`: what a worker does with a batch.
* `Pipeline.Standing`, `Pipeline.Followed`: what every step of it keeps.
* `Pipeline.Disciplined`, `Pipeline.disciplined_of_processing`: the discipline of retries.
-/

/-- Whether a result is a failure that may go away by itself. -/
def SubmitResult.isTransient : SubmitResult → Bool
  | .done _ => false
  | .failed _ retryable => retryable

namespace Submission

variable {σ : Type} {service : Service σ} {o : WriteOptions}

/-- An item is sent again exactly if its failure may go away and it has attempts left. -/
theorem isRetried_eq (i : WriteItem) (r : SubmitResult) :
    isRetried o i r = (r.isTransient && i.attempts ≤ o.retries) := by
  cases r <;> rfl

/-! ### What the service answers -/

/-- How the service fared with a request of a batch. -/
def ofAnswer (o : WriteOptions) : Except Fault WriteResponse → SubmitResult
  | .ok response => .done response
  | .error fault => refused o fault

/-- The results of a call on a world, by what the service answers. -/
inductive Answered (service : Service σ) (o : WriteOptions) (w : World σ) :
    List WriteRequest → List SubmitResult → Prop where
  /-- A single request is carried out. -/
  | one {request : WriteRequest} {response : WriteResponse}
      (hcall : ((service.execute request).runOn w).1 = .ok response) :
      Answered service o w [request] [.done response]
  /-- A single request fails. -/
  | oneFailed {request : WriteRequest} {e : Failure}
      (hcall : ((service.execute request).runOn w).1 = .error e) :
      Answered service o w [request] [.failed e (isTransient o e)]
  /-- A batch has an answer for each request, at its place. -/
  | all {requests : List WriteRequest} {answers : List (Except Fault WriteResponse)}
      (hmany : requests.length ≠ 1)
      (hcall : ((service.executeAll requests).runOn w).1 = .ok answers)
      (hlength : answers.length = requests.length) :
      Answered service o w requests (answers.map (ofAnswer o))
  /-- A batch has too many answers or too few. -/
  | miscounted {requests : List WriteRequest} {answers : List (Except Fault WriteResponse)}
      {e : Failure} (hmany : requests.length ≠ 1)
      (hcall : ((service.executeAll requests).runOn w).1 = .ok answers)
      (hlength : answers.length ≠ requests.length) :
      Answered service o w requests (requests.map fun _ => .failed e false)
  /-- The call of a batch fails. -/
  | allFailed {requests : List WriteRequest} {e : Failure} (hmany : requests.length ≠ 1)
      (hcall : ((service.executeAll requests).runOn w).1 = .error e) :
      Answered service o w requests
        (requests.map fun _ => .failed (shared e) (isTransient o e))

/-- What goes on with the answer of a call, a breach apart, has that answer. -/
theorem of_unlessBreach {α β : Type} {c : Call σ α} {f : Answer α → Call σ β} {w w' : World σ}
    {b : β}
    (h : Call.runOn w (do f (← unlessBreach (← c.attempt))) = (.ok b, w')) :
    ∃ w₁, Call.runOn w₁ (f (c.runOn w).1) = (.ok b, w') := by
  obtain ⟨r, w₁, hcall, hrest⟩ := Call.bind_eq_ok h
  obtain ⟨r', w₂, hr, hrest'⟩ := Call.bind_eq_ok hrest
  have hanswer : (c.runOn w).1 = r := by
    rw [Call.runOn_attempt] at hcall
    exact Except.ok.inj (Prod.mk.inj hcall).1
  have hsame : r' = r := by
    unfold unlessBreach at hr
    split at hr
    · exact nomatch hr
    · cases hr
      rfl
  rw [hsame] at hrest'
  rw [hanswer]
  exact ⟨w₂, hrest'⟩

/-- Every call comes to results by what the service answers. -/
theorem answered_of_submit {requests : List WriteRequest} {w w' : World σ}
    {results : List SubmitResult}
    (h : (submit service o requests).runOn w = (.ok results, w')) :
    Answered service o w requests results := by
  unfold submit at h
  split at h
  · obtain ⟨w₁, hrest⟩ := of_unlessBreach h
    cases hcall : ((service.execute _).runOn w).1 with
    | ok response =>
      rw [hcall] at hrest
      cases hrest
      exact .one hcall
    | error e =>
      rw [hcall] at hrest
      cases hrest
      exact .oneFailed hcall
  -- any other number of requests is sent as a batch
  · rename_i hmany
    have hlength : requests.length ≠ 1 := by
      intro hone
      obtain ⟨request, hrequest⟩ := List.length_eq_one_iff.1 hone
      exact hmany request hrequest
    obtain ⟨w₁, hrest⟩ := of_unlessBreach h
    cases hcall : ((service.executeAll requests).runOn w).1 with
    | error e =>
      rw [hcall] at hrest
      cases hrest
      exact .allFailed hlength hcall
    | ok answers =>
      rw [hcall] at hrest
      dsimp only at hrest
      split at hrest
      · rename_i hcount
        cases hrest
        exact .all hlength hcall hcount
      · rename_i hcount
        cases hrest
        exact .miscounted hlength hcall hcount

/-- A request that is sent as a batch of one fails if the batch has not one answer. -/
theorem runOn_executeAsBatch {w : World σ} {request : WriteRequest}
    {answers : List (Except Fault WriteResponse)}
    (hcall : ((service.executeAll [request]).runOn w).1 = .ok answers)
    (hlength : answers.length ≠ 1) :
    ∃ message, ((Service.executeAsBatch service.executeAll request).runOn w).1 =
      .error (.saying message) := by
  unfold Service.executeAsBatch
  rw [Call.runOn_bind]
  cases hrun : (service.executeAll [request]).runOn w with
  | mk r w' =>
    rw [hrun] at hcall
    cases hcall
    match answers, hlength with
    | [], _ => exact ⟨_, rfl⟩
    | first :: _ :: _, _ => cases first <;> exact ⟨_, rfl⟩
    | [_], hone => exact absurd rfl hone

/-- When there are too many answers or too few, every result is a failure for good. A service that
knows batches only has them to a single request, too. -/
theorem failed_of_miscounted {w : World σ} {requests : List WriteRequest}
    {results : List SubmitResult} (h : Answered service o w requests results)
    (hsingle : requests.length = 1 → ∀ request,
      service.execute request = Service.executeAsBatch service.executeAll request)
    {answers : List (Except Fault WriteResponse)}
    (hcall : ((service.executeAll requests).runOn w).1 = .ok answers)
    (hlength : answers.length ≠ requests.length) :
    ∀ r ∈ results, ∃ e, r = .failed e false := by
  intro r hr
  cases h with
  | one hone =>
    obtain ⟨message, hfails⟩ := runOn_executeAsBatch hcall hlength
    rw [hsingle rfl, hfails] at hone
    exact nomatch hone
  | oneFailed hone =>
    obtain ⟨message, hfails⟩ := runOn_executeAsBatch hcall hlength
    rw [hsingle rfl, hfails] at hone
    cases hone
    exact ⟨_, List.mem_singleton.1 hr⟩
  | all hmany hall hcount =>
    cases hall.symm.trans hcall
    exact absurd hcount hlength
  | miscounted hmany hall hcount =>
    obtain ⟨-, -, rfl⟩ := List.mem_map.1 hr
    exact ⟨_, rfl⟩
  | allFailed hmany hall => exact nomatch hall.symm.trans hcall

/-! ### Results by token -/

/-- What becomes of items that have no result. -/
def unanswered (entity : String) (items : List WriteItem) : Settlement :=
  let e : Failure := .saying "The service returned no result"
  ⟨items.map fun i => i.failed entity e false, [], items.map fun i => failureLine entity i e⟩

/-- What becomes of items when results come in with the tokens that they are for: each result takes
its item out, and what is left in the end has none. -/
def settleByToken (entity : String) (o : WriteOptions) :
    List WriteItem → List Nat → List SubmitResult → Settlement
  | items, token :: tokens, r :: results =>
    match items.find? (·.token = token) with
    | some i =>
      (settleOne entity o i r).append
        (settleByToken entity o (items.filter (·.token ≠ token)) tokens results)
    | none => settleByToken entity o items tokens results
  | items, _, _ => unanswered entity items

/-- Where no two items have the same token, matching by token is matching by place. -/
theorem settleByToken_eq (entity : String) {items : List WriteItem} {results : List SubmitResult}
    (htokens : (items.map (·.token)).Nodup) (hlength : results.length = items.length) :
    settleByToken entity o items (items.map (·.token)) results =
      settle entity o items results := by
  induction items generalizing results with
  | nil => cases results <;> rfl
  | cons i items ih =>
    cases results with
    | nil => exact nomatch hlength
    | cons r results =>
      rw [List.map_cons, List.nodup_cons] at htokens
      have hfind : (i :: items).find? (·.token = i.token) = some i :=
        List.find?_cons_of_pos (by simp)
      have hrest : (i :: items).filter (·.token ≠ i.token) = items := by
        rw [List.filter_cons_of_neg (by simp), List.filter_eq_self]
        intro j hj
        refine decide_eq_true fun hsame => htokens.1 ?_
        exact hsame ▸ List.mem_map_of_mem hj
      rw [List.map_cons, settleByToken, hfind, settle]
      dsimp only
      rw [hrest, ih htokens.2 (Nat.succ.inj hlength)]

/-! ### Items with a given answer -/

/-- In a list of answered items without doubled tokens, the items with an answer of some kind are
those whose token has one. -/
theorem filter_zip_eq {items : List WriteItem} (htokens : (items.map (·.token)).Nodup)
    (results : List SubmitResult) (P : SubmitResult → Bool) :
    ((items.zip results).filter fun x => P x.2).map Prod.fst =
      items.filter fun i => (items.zip results).any fun x => x.1.token == i.token && P x.2 := by
  induction items generalizing results with
  | nil => rfl
  | cons i items ih =>
    rw [List.map_cons, List.nodup_cons] at htokens
    cases results with
    | nil => simp
    | cons r results =>
      -- neither is the first item answered later, nor are the others answered first
      have hfirst : ((items.zip results).any fun x => x.1.token == i.token && P x.2) = false := by
        rw [List.any_eq_false]
        rintro ⟨j, r'⟩ hj hboth
        have hmem : j ∈ items := (List.of_mem_zip hj).1
        simp only [Bool.and_eq_true, beq_iff_eq] at hboth
        exact htokens.1 (hboth.1 ▸ List.mem_map_of_mem hmem)
      have hothers : ∀ j ∈ items, (i.token == j.token) = false := by
        intro j hj
        rw [beq_eq_false_iff_ne]
        intro hsame
        exact htokens.1 (hsame ▸ List.mem_map_of_mem hj)
      rw [List.zip_cons_cons, List.filter_cons, List.filter_cons, List.any_cons, hfirst,
        beq_self_eq_true, Bool.true_and, Bool.or_false]
      have hrest : items.filter (fun j =>
          (((i, r) :: items.zip results).any fun x => x.1.token == j.token && P x.2)) =
            ((items.zip results).filter fun x => P x.2).map Prod.fst := by
        rw [ih htokens.2]
        refine List.filter_congr fun j hj => ?_
        rw [List.any_cons, hothers j hj, Bool.false_and, Bool.false_or]
      rw [hrest]
      cases P r <;> rfl

end Submission

/-! ### Rounds -/

/-- An item after a number of attempts. -/
def WriteItem.attempted (n : Nat) (i : WriteItem) : WriteItem :=
  { i with attempts := n }

namespace Pipeline

/-- A call for items: the world that it was made on, the items as they were sent, and how each of
them fared. -/
structure Round (σ : Type) where
  world : World σ
  items : List WriteItem
  results : List SubmitResult

namespace Round

variable {σ : Type}

/-- Whether the round carried the item with a token. -/
def carries (r : Round σ) (token : Nat) : Bool :=
  r.items.any (·.token == token)

/-- Whether the round answered the item with a token by a transient failure. -/
def putsOff (r : Round σ) (token : Nat) : Bool :=
  (r.items.zip r.results).any fun x => x.1.token == token && x.2.isTransient

/-- The outcomes of the items that ended in the round. -/
def outcomes (p : Pipeline σ) (r : Round σ) : List ItemOutcome :=
  (Submission.settle p.entity.name p.options r.items r.results).outcomes

end Round

variable {σ : Type} {p : Pipeline σ} {id : Nat} {batch : List WriteItem}

/-- What is left of a batch after some rounds: the items that all of them put off. -/
def leftOver (batch : List WriteItem) (rounds : List (Round σ)) : List WriteItem :=
  batch.filter fun i => rounds.all (·.putsOff i.token)

/-- What a worker does with a batch, with its rounds and the outcomes that it puts out. Between two
of its steps the others may do anything. The run is not cancelled when a wait ends. -/
inductive Processing (p : Pipeline σ) (id : Nat) (batch : List WriteItem) :
    List (Round σ) → List ItemOutcome → Run σ → Prop where
  /-- The worker sends the batch. -/
  | send {s : Run σ} (hw : s.workers[id]? = some .idle) :
      Processing p id batch [] [] (send s id batch)
  /-- The others do something. -/
  | others {rounds : List (Round σ)} {outcomes : List ItemOutcome} {s t : Run σ}
      (run : Processing p id batch rounds outcomes s)
      (hw : t.workers[id]? = s.workers[id]?) : Processing p id batch rounds outcomes t
  /-- The worker is answered. -/
  | answer {rounds : List (Round σ)} {outcomes new : List ItemOutcome} {s t : Run σ}
      {items : List WriteItem} {results : List SubmitResult}
      (run : Processing p id batch rounds outcomes s)
      (hw : s.workers[id]? = some (.calling items))
      (hcall : p.submission s items = (.ok results, t))
      (hnew : (p.submitted t id items (.ok results)).outcomes = new.reverse ++ t.outcomes) :
      Processing p id batch (rounds ++ [⟨s.world, items, results⟩]) (outcomes ++ new)
        (p.submitted t id items (.ok results))
  /-- The wait of the worker ends. -/
  | wake {rounds : List (Round σ)} {outcomes : List ItemOutcome} {s : Run σ} {due : Nat}
      {items : List WriteItem} (run : Processing p id batch rounds outcomes s)
      (hw : s.workers[id]? = some (.waiting due items)) (hnot : s.cancelled = false) :
      Processing p id batch rounds outcomes
        (if s.cancelled then p.abandon s id items else Pipeline.send s id items)

/-! ### What is left of a batch -/

/-- What is left of a batch are the items that every round has put off. -/
theorem mem_leftOver {rounds : List (Round σ)} {i : WriteItem} :
    i ∈ leftOver batch rounds ↔ i ∈ batch ∧ ∀ r ∈ rounds, r.putsOff i.token = true := by
  rw [leftOver, List.mem_filter, List.all_eq_true]

/-- The items that are left keep their tokens apart. -/
theorem tokens_leftOver_nodup (htokens : (batch.map (·.token)).Nodup)
    (rounds : List (Round σ)) (n : Nat) :
    (((leftOver batch rounds).map (WriteItem.attempted n)).map (·.token)).Nodup := by
  rw [List.map_map]
  exact (List.filter_sublist.map _).nodup htokens

/-- One more round puts off some of what the rounds before it have left. -/
theorem leftOver_append (batch : List WriteItem) (rounds : List (Round σ)) (round : Round σ) :
    leftOver batch (rounds ++ [round]) =
      (leftOver batch rounds).filter fun i => round.putsOff i.token := by
  rw [leftOver, leftOver, List.filter_filter]
  refine List.filter_congr fun i _ => ?_
  rw [List.all_append, List.all_cons, List.all_nil, Bool.and_true, Bool.and_comm]

/-- The items of a round that are sent again are those that all rounds so far put off, as long as
there are attempts left. -/
theorem retry_round (htokens : (batch.map (·.token)).Nodup) {rounds : List (Round σ)}
    {items : List WriteItem} {world : World σ} {results : List SubmitResult}
    (hitems : items = (leftOver batch rounds).map (WriteItem.attempted (rounds.length + 1))) :
    (Submission.settle p.entity.name p.options items results).retry =
      if rounds.length + 1 ≤ p.options.retries then
        (leftOver batch (rounds ++ [⟨world, items, results⟩])).map
          (WriteItem.attempted (rounds.length + 1))
      else [] := by
  have hretried : ∀ x ∈ items.zip results, Submission.isRetried p.options x.1 x.2 =
      (x.2.isTransient && decide (rounds.length + 1 ≤ p.options.retries)) := by
    rintro ⟨i, r⟩ hx
    have hi : i ∈ items := (List.of_mem_zip hx).1
    rw [hitems] at hi
    obtain ⟨j, -, rfl⟩ := List.mem_map.1 hi
    exact Submission.isRetried_eq _ r
  rw [Submission.retry_settle_eq, List.filter_congr hretried]
  split
  · rename_i hleft
    have hnodup : (items.map (·.token)).Nodup := by
      rw [hitems]
      exact tokens_leftOver_nodup htokens rounds _
    simp only [decide_eq_true hleft, Bool.and_true]
    rw [Submission.filter_zip_eq hnodup results SubmitResult.isTransient, leftOver_append]
    -- the items of the round differ from what is left by their attempts only
    conv_lhs => rw [hitems, List.filter_map, ← hitems]
    rfl
  · rename_i hnone
    simp only [decide_eq_false hnone, Bool.and_false, List.filter_false, List.map_nil]

/-! ### What every step keeps -/

/-- What a worker is about to do after some rounds with a batch. -/
inductive Standing (p : Pipeline σ) (batch : List WriteItem) (rounds : List (Round σ)) :
    Worker → Prop where
  /-- It is with the service for what is left. -/
  | calling (hleft : rounds.length ≤ p.options.retries) :
      Standing p batch rounds
        (.calling ((leftOver batch rounds).map (WriteItem.attempted (rounds.length + 1))))
  /-- It waits to send what is left. -/
  | waiting (due : Nat) (hleft : rounds.length ≤ p.options.retries) :
      Standing p batch rounds
        (.waiting due ((leftOver batch rounds).map (WriteItem.attempted rounds.length)))
  /-- Nothing is left. -/
  | idle : Standing p batch rounds .idle

/-- What the rounds with a batch have to be, and what has become of the batch. -/
structure Followed (p : Pipeline σ) (batch : List WriteItem) (rounds : List (Round σ))
    (outcomes : List ItemOutcome) (w : Worker) : Prop where
  standing : p.Standing batch rounds w
  /-- No round is one too many. -/
  bound : rounds.length ≤ p.options.retries + 1
  /-- Every round carries what the rounds before it have left. -/
  items : ∀ k r, rounds[k]? = some r →
    r.items = (leftOver batch (rounds.take k)).map (WriteItem.attempted (k + 1))
  /-- The results are what the service answers. -/
  answered : ∀ r ∈ rounds,
    Submission.Answered p.service p.options r.world (r.items.map (·.request)) r.results
  lengths : ∀ r ∈ rounds, r.results.length = r.items.length
  /-- Every item is still with the worker or has its outcome. -/
  tickets : ItemOutcome.tickets outcomes + w.tickets = WriteItem.tickets batch
  /-- The outcomes are those of the items that ended. -/
  ended : outcomes = rounds.flatMap (Round.outcomes p)

/-- Sending a batch for the first time is a first attempt at all of it. -/
theorem followed_send (hattempts : ∀ i ∈ batch, i.attempts = 0) :
    p.Followed batch ([] : List (Round σ)) [] (.calling (batch.map WriteItem.sent)) := by
  have hsent : batch.map WriteItem.sent =
      (leftOver batch ([] : List (Round σ))).map (WriteItem.attempted 1) := by
    have hall : leftOver batch ([] : List (Round σ)) = batch := by simp [leftOver]
    rw [hall]
    refine List.map_congr_left fun i hi => ?_
    rw [WriteItem.sent, hattempts i hi]
    rfl
  exact {
    standing := hsent ▸ .calling (Nat.zero_le _)
    bound := Nat.zero_le _
    items := fun k r hr => absurd hr (Option.some_ne_none r).symm
    answered := fun r hr => absurd hr List.not_mem_nil
    lengths := fun r hr => absurd hr List.not_mem_nil
    ended := rfl
    tickets := by
      rw [Worker.tickets_calling, WriteItem.tickets_sent]
      exact zero_add (WriteItem.tickets batch) }

/-- What is sent in a round that a worker is about to have. -/
theorem Followed.items_eq {rounds : List (Round σ)} {outcomes : List ItemOutcome}
    {items : List WriteItem} (h : p.Followed batch rounds outcomes (.calling items)) :
    items = (leftOver batch rounds).map (WriteItem.attempted (rounds.length + 1)) ∧
      rounds.length ≤ p.options.retries := by
  cases h.standing with
  | calling hleft => exact ⟨rfl, hleft⟩

/-- The last round carries what the rounds before it have left, if all of those do. -/
theorem items_append {rounds : List (Round σ)} {round : Round σ}
    (hrounds : ∀ k r, rounds[k]? = some r →
      r.items = (leftOver batch (rounds.take k)).map (WriteItem.attempted (k + 1)))
    (hround : round.items = (leftOver batch rounds).map (WriteItem.attempted (rounds.length + 1)))
    (k : Nat) (r : Round σ) (hr : (rounds ++ [round])[k]? = some r) :
    r.items = (leftOver batch ((rounds ++ [round]).take k)).map (WriteItem.attempted (k + 1)) := by
  rcases Nat.lt_trichotomy k rounds.length with hk | rfl | hk
  · rw [List.getElem?_append_left hk] at hr
    rw [List.take_append_of_le_length hk.le]
    exact hrounds k r hr
  · rw [List.getElem?_concat_length] at hr
    rw [List.take_left, ← Option.some.inj hr]
    exact hround
  · have hlength : (rounds ++ [round]).length ≤ k := by
      rw [List.length_append, List.length_singleton]
      exact hk
    rw [List.getElem?_eq_none hlength] at hr
    exact absurd hr (Option.some_ne_none r).symm

/-- One more round: whatever the worker does after it, it has the items that are sent again. -/
theorem Followed.append {rounds : List (Round σ)} {outcomes : List ItemOutcome} {round : Round σ}
    {w : Worker} (h : p.Followed batch rounds outcomes (.calling round.items))
    (hanswered : Submission.Answered p.service p.options round.world
      (round.items.map (·.request)) round.results)
    (hlength : round.results.length = round.items.length)
    (hstanding : p.Standing batch (rounds ++ [round]) w)
    (htickets : w.tickets = WriteItem.tickets
      (Submission.settle p.entity.name p.options round.items round.results).retry) :
    p.Followed batch (rounds ++ [round]) (outcomes ++ round.outcomes p) w := by
  obtain ⟨hitems, hleft⟩ := h.items_eq
  exact {
    standing := hstanding
    bound := by
      rw [List.length_append]
      exact Nat.succ_le_succ hleft
    items := items_append h.items hitems
    answered := List.forall_mem_append.2 ⟨h.answered, List.forall_mem_singleton.2 hanswered⟩
    lengths := List.forall_mem_append.2 ⟨h.lengths, List.forall_mem_singleton.2 hlength⟩
    tickets := by
      have hsettle : ItemOutcome.tickets (round.outcomes p) + w.tickets =
          WriteItem.tickets round.items :=
        htickets ▸ Submission.tickets_settle _ _ _ _ hlength
      rw [ItemOutcome.tickets_append, add_assoc, hsettle]
      exact h.tickets
    ended := by rw [List.flatMap_append, List.flatMap_singleton, ← h.ended] }

/-- What an answer makes of a batch. -/
theorem followed_answer (htokens : (batch.map (·.token)).Nodup) {rounds : List (Round σ)}
    {outcomes new : List ItemOutcome} {s t : Run σ} {items : List WriteItem}
    {results : List SubmitResult} (h : p.Followed batch rounds outcomes (.calling items))
    (hw : s.workers[id]? = some (.calling items))
    (hcall : p.submission s items = (.ok results, t))
    (hnew : (p.submitted t id items (.ok results)).outcomes = new.reverse ++ t.outcomes) :
    ∃ w, (p.submitted t id items (.ok results)).workers[id]? = some w ∧
      p.Followed batch (rounds ++ [⟨s.world, items, results⟩]) (outcomes ++ new) w := by
  let round : Round σ := ⟨s.world, items, results⟩
  let r := Submission.settle p.entity.name p.options items results
  -- what is put out is what this round ends, so the rest of the batch is still accounted for
  have hended : new = round.outcomes p := by
    have hput : (p.settled t id r).outcomes = new.reverse ++ t.outcomes := hnew
    rw [outcomes_settled] at hput
    exact (List.reverse_inj.1 (List.append_cancel_right hput)).symm
  have hsent : p.Followed batch rounds outcomes (.calling round.items) := h
  have hrest : ∀ w : Worker, p.Standing batch (rounds ++ [round]) w →
      w.tickets = WriteItem.tickets r.retry →
      p.Followed batch (rounds ++ [round]) (outcomes ++ new) w := by
    intro w hstanding htickets
    rw [hended]
    exact hsent.append (Submission.answered_of_submit (submit_of_submission hcall))
      (length_of_submission hcall) hstanding htickets
  have hworker : t.workers[id]? = some (.calling items) := by
    obtain ⟨world, cancelled, rfl⟩ := eq_of_submission hcall
    exact hw
  have hretry : r.retry = if rounds.length + 1 ≤ p.options.retries then
      (leftOver batch (rounds ++ [round])).map (WriteItem.attempted (rounds.length + 1))
    else [] := retry_round htokens h.items_eq.1
  rcases getElem?_settled (p := p) hworker r with ⟨hnone, hidle⟩ | ⟨hsome, due, hwaiting⟩
  · exact ⟨.idle, hidle, hrest _ .idle (by rw [hnone]; rfl)⟩
  · refine ⟨_, hwaiting, hrest _ ?_ rfl⟩
    split at hretry
    · rename_i hmore
      have hlength : (rounds ++ [round]).length = rounds.length + 1 := List.length_append
      rw [hretry, ← hlength]
      exact .waiting due (hlength ▸ hmore)
    · exact absurd hretry hsome

/-- A wait that ends is one more attempt at what is left. -/
theorem followed_wake {rounds : List (Round σ)} {outcomes : List ItemOutcome} {due : Nat}
    {items : List WriteItem} (h : p.Followed batch rounds outcomes (.waiting due items)) :
    p.Followed batch rounds outcomes (.calling (items.map WriteItem.sent)) := by
  refine ⟨?_, h.bound, h.items, h.answered, h.lengths, ?_, h.ended⟩
  · cases h.standing with
    | waiting _ hleft =>
      rw [List.map_map]
      exact .calling hleft
  · have htickets := h.tickets
    rw [Worker.tickets_waiting] at htickets
    rw [Worker.tickets_calling, WriteItem.tickets_sent]
    exact htickets

/-- **Invariant.** Whatever a worker does with a batch follows the rules. -/
theorem followed_of_processing (hattempts : ∀ i ∈ batch, i.attempts = 0)
    (htokens : (batch.map (·.token)).Nodup) {rounds : List (Round σ)}
    {outcomes : List ItemOutcome} {t : Run σ} (h : p.Processing id batch rounds outcomes t) :
    ∃ w, t.workers[id]? = some w ∧ p.Followed batch rounds outcomes w := by
  induction h with
  | send hw => exact ⟨_, getElem?_setWorker_self hw _, followed_send hattempts⟩
  | others _ hw ih =>
    obtain ⟨w, hw', hfollowed⟩ := ih
    exact ⟨w, hw.trans hw', hfollowed⟩
  | answer _ hw hcall hnew ih =>
    obtain ⟨w, hw', hfollowed⟩ := ih
    cases hw.symm.trans hw'
    exact followed_answer htokens hfollowed hw hcall hnew
  | wake _ hw hnot ih =>
    obtain ⟨w, hw', hfollowed⟩ := ih
    cases hw.symm.trans hw'
    rw [hnot]
    exact ⟨_, getElem?_setWorker_self hw _, followed_wake hfollowed⟩

/-! ### Items over the rounds -/

section

variable {rounds : List (Round σ)} {outcomes : List ItemOutcome} {w : Worker}

/-- No two items of a round have the same token. -/
theorem Followed.tokens_nodup (h : p.Followed batch rounds outcomes w)
    (htokens : (batch.map (·.token)).Nodup) {r : Round σ} (hr : r ∈ rounds) :
    (r.items.map (·.token)).Nodup := by
  obtain ⟨k, hk⟩ := List.mem_iff_getElem?.1 hr
  rw [h.items k r hk]
  exact tokens_leftOver_nodup htokens _ _

/-- In a round an item has one result. -/
theorem Followed.result_unique (h : p.Followed batch rounds outcomes w)
    (htokens : (batch.map (·.token)).Nodup) {r : Round σ} (hr : r ∈ rounds)
    {x y : WriteItem × SubmitResult} (hx : x ∈ r.items.zip r.results)
    (hy : y ∈ r.items.zip r.results) (hxy : x.1.token = y.1.token) : x = y := by
  have hfst : (r.items.zip r.results).map (fun x => x.1.token) = r.items.map (·.token) := by
    have hitems : (r.items.zip r.results).map Prod.fst = r.items :=
      List.map_fst_zip (h.lengths r hr).ge
    conv_rhs => rw [← hitems, List.map_map]
    rfl
  have hnodup : ((r.items.zip r.results).map (fun x => x.1.token)).Nodup := by
    rw [hfst]
    exact h.tokens_nodup htokens hr
  exact List.inj_on_of_nodup_map hnodup hx hy hxy

/-- A round carries the items of the batch that all rounds before it put off. -/
theorem Followed.carries_iff (h : p.Followed batch rounds outcomes w)
    (htokens : (batch.map (·.token)).Nodup) {k : Nat} {r : Round σ} (hr : rounds[k]? = some r)
    {i : WriteItem} (hi : i ∈ batch) :
    r.carries i.token = true ↔ ∀ r' ∈ rounds.take k, r'.putsOff i.token = true := by
  rw [Round.carries, h.items k r hr, List.any_eq_true]
  constructor
  · rintro ⟨j, hj, hji⟩
    obtain ⟨j', hj', rfl⟩ := List.mem_map.1 hj
    obtain ⟨hbatch, hall⟩ := mem_leftOver.1 hj'
    have hsame : j' = i := List.inj_on_of_nodup_map htokens hbatch hi (beq_iff_eq.1 hji)
    rwa [hsame] at hall
  · intro hall
    exact ⟨i.attempted (k + 1), List.mem_map_of_mem (mem_leftOver.2 ⟨hi, hall⟩), beq_self_eq_true _⟩

/-- The items of a round are items of the batch, with the attempts that they have had by then. -/
theorem Followed.mem_items (h : p.Followed batch rounds outcomes w) {k : Nat} {r : Round σ}
    (hr : rounds[k]? = some r) {i : WriteItem} (hi : i ∈ r.items) :
    ∃ j ∈ batch, i.ticket = j.ticket ∧ i.attempts = k + 1 := by
  rw [h.items k r hr] at hi
  obtain ⟨j, hj, rfl⟩ := List.mem_map.1 hi
  exact ⟨j, (mem_leftOver.1 hj).1, rfl, rfl⟩

/-- An item that is not sent again after a round is in no round after it. -/
theorem Followed.not_carries (h : p.Followed batch rounds outcomes w)
    (htokens : (batch.map (·.token)).Nodup) {k : Nat} {r : Round σ} (hr : rounds[k]? = some r)
    {x : WriteItem × SubmitResult} (hx : x ∈ r.items.zip r.results)
    (hended : Submission.isRetried p.options x.1 x.2 = false) {k' : Nat} (hk : k < k')
    {r' : Round σ} (hr' : rounds[k']? = some r') : r'.carries x.1.token = false := by
  obtain ⟨j, hj, hticket, hattempts⟩ := h.mem_items hr (List.of_mem_zip hx).1
  have htoken : x.1.token = j.token := congrArg Ticket.token hticket
  have hlater : k' < rounds.length := (List.getElem?_eq_some_iff.1 hr').1
  have hbound := h.bound
  -- there are attempts left, so that the result is what ended the item
  have hresult : x.2.isTransient = false := by
    rw [Submission.isRetried_eq, hattempts, decide_eq_true (by omega), Bool.and_true] at hended
    exact hended
  rw [Bool.eq_false_iff, htoken]
  intro hcarries
  have hmem : r ∈ rounds.take k' := by
    refine List.mem_iff_getElem?.2 ⟨k, ?_⟩
    rw [List.getElem?_take_of_lt hk, hr]
  have hoff := (h.carries_iff htokens hr' hj).1 hcarries r hmem
  obtain ⟨y, hy, hboth⟩ := List.any_eq_true.1 hoff
  rw [Bool.and_eq_true, beq_iff_eq, ← htoken] at hboth
  have hsame := h.result_unique htokens (List.mem_of_getElem? hr) hy hx hboth.1
  rw [hsame, hresult] at hboth
  exact Bool.false_ne_true hboth.2

/-- An item that ends in a round was in all rounds up to it and in no other. -/
theorem Followed.countP_carries (h : p.Followed batch rounds outcomes w)
    (htokens : (batch.map (·.token)).Nodup) {k : Nat} {r : Round σ} (hr : rounds[k]? = some r)
    {x : WriteItem × SubmitResult} (hx : x ∈ r.items.zip r.results)
    (hended : Submission.isRetried p.options x.1 x.2 = false) :
    rounds.countP (·.carries x.1.token) = k + 1 := by
  obtain ⟨j, hj, hticket, -⟩ := h.mem_items hr (List.of_mem_zip hx).1
  have htoken : x.1.token = j.token := congrArg Ticket.token hticket
  have hk : k < rounds.length := (List.getElem?_eq_some_iff.1 hr).1
  have hcarries : r.carries j.token = true :=
    List.any_eq_true.2 ⟨x.1, (List.of_mem_zip hx).1, beq_iff_eq.2 htoken⟩
  have hoff := (h.carries_iff htokens hr hj).1 hcarries
  -- all rounds up to this one, and none of those after it
  rw [← List.take_append_drop (k + 1) rounds, List.countP_append]
  have hbefore : (rounds.take (k + 1)).countP (·.carries x.1.token) = k + 1 := by
    rw [List.countP_eq_length.2, List.length_take, Nat.min_eq_left hk]
    intro r' hr'
    obtain ⟨k', hk', hat⟩ := List.mem_take_iff_getElem.1 hr'
    have hk'k : k' ≤ k := by omega
    have hround : rounds[k']? = some r' := by
      rw [← hat]
      exact List.getElem?_eq_getElem _
    rw [htoken, h.carries_iff htokens hround hj]
    exact fun r'' hr'' => hoff r'' (List.take_subset_take_left _ hk'k hr'')
  have hafter : (rounds.drop (k + 1)).countP (·.carries x.1.token) = 0 := by
    rw [List.countP_eq_zero]
    intro r' hr'
    obtain ⟨n, hn, hat⟩ := List.mem_drop_iff_getElem.1 hr'
    have hround : rounds[k + 1 + n]? = some r' := by
      rw [← hat]
      exact List.getElem?_eq_getElem _
    rw [h.not_carries htokens hr hx hended (by omega) hround]
    exact Bool.false_ne_true
  rw [hbefore, hafter]

/-- Every outcome is that of an item which ended in one of the rounds. -/
theorem Followed.exists_round (h : p.Followed batch rounds outcomes w) {o : ItemOutcome}
    (ho : o ∈ outcomes) :
    ∃ (k : Nat) (r : Round σ) (x : WriteItem × SubmitResult),
      rounds[k]? = some r ∧ x ∈ r.items.zip r.results ∧
        Submission.isRetried p.options x.1 x.2 = false ∧
        o = Submission.ending p.entity.name p.options x.1 x.2 ∧ o.attempts = k + 1 := by
  rw [h.ended] at ho
  obtain ⟨r, hr, ho⟩ := List.mem_flatMap.1 ho
  obtain ⟨k, hk⟩ := List.mem_iff_getElem?.1 hr
  rw [Round.outcomes, Submission.outcomes_settle] at ho
  obtain ⟨x, hx, rfl⟩ := List.mem_map.1 ho
  obtain ⟨hx, hended⟩ := List.mem_filter.1 hx
  obtain ⟨j, -, -, hattempts⟩ := h.mem_items hk (List.of_mem_zip hx).1
  refine ⟨k, r, x, hk, hx, by simpa using hended, rfl, ?_⟩
  rw [Submission.attempts_ending, hattempts]

end

/-! ### A worker comes to an end with a batch -/

/-- How many steps of its own a worker has left after some rounds with a batch. -/
def stepsLeft (p : Pipeline σ) (rounds : Nat) : Worker → Nat
  | .calling _ => 2 * (p.options.retries - rounds) + 1
  | .waiting _ _ => 2 * (p.options.retries - rounds) + 2
  | _ => 0

@[simp] theorem stepsLeft_calling (p : Pipeline σ) (rounds : Nat) (items : List WriteItem) :
    p.stepsLeft rounds (.calling items) = 2 * (p.options.retries - rounds) + 1 := rfl

@[simp] theorem stepsLeft_waiting (p : Pipeline σ) (rounds due : Nat) (items : List WriteItem) :
    p.stepsLeft rounds (.waiting due items) = 2 * (p.options.retries - rounds) + 2 := rfl

/-- A worker that is answered goes on with the batch. -/
theorem processing_work_calling {rounds : List (Round σ)} {outcomes : List ItemOutcome}
    {s : Run σ} {items : List WriteItem} (h : p.Processing id batch rounds outcomes s)
    (hw : s.workers[id]? = some (.calling items)) (hb : ¬p.Breaks s (.worker id)) :
    ∃ r new, p.Processing id batch (rounds ++ [r]) (outcomes ++ new) (p.work s id) := by
  cases hcall : p.submission s items with
  | mk answer t =>
    cases answer with
    | error e => exact absurd ⟨items, hw, e, congrArg Prod.fst hcall⟩ hb
    | ok results =>
      have hwork : p.work s id = p.submitted t id items (.ok results) := by
        have hanswer : p.work s id =
            p.submitted (p.submission s items).2 id items (p.submission s items).1 := by
          rw [work, hw]
          rfl
        rw [hanswer, hcall]
      rw [hwork]
      refine ⟨_, (Submission.settle p.entity.name p.options items results).outcomes,
        .answer h hw hcall ?_⟩
      exact outcomes_settled t id _

/-- A worker that wakes up sends its items again, or gives them up if the run is cancelled. -/
theorem work_waiting {s : Run σ} {due : Nat} {items : List WriteItem}
    (hw : s.workers[id]? = some (.waiting due items)) :
    p.work s id = if s.cancelled then p.abandon s id items else send s id items := by
  rw [work, hw]

/-- The worker that is followed is at the batch as its rounds say, whatever it is doing. -/
theorem standing_of_processing (hattempts : ∀ i ∈ batch, i.attempts = 0)
    (htokens : (batch.map (·.token)).Nodup) {rounds : List (Round σ)}
    {outcomes : List ItemOutcome} {s : Run σ} {w : Worker}
    (h : p.Processing id batch rounds outcomes s) (hw : s.workers[id]? = some w) :
    p.Standing batch rounds w := by
  obtain ⟨w', hw', hfollowed⟩ := followed_of_processing hattempts htokens h
  cases hw.symm.trans hw'
  exact hfollowed.standing

/-- A step of a worker that is not done leaves fewer steps of its own, unless it makes it idle. -/
theorem stepsLeft_work (hattempts : ∀ i ∈ batch, i.attempts = 0)
    (htokens : (batch.map (·.token)).Nodup) {rounds : List (Round σ)}
    {outcomes : List ItemOutcome} {s : Run σ} {w : Worker}
    (hb : ¬p.Breaks s (.worker id)) (h : p.Processing id batch rounds outcomes s)
    (hw : s.workers[id]? = some w) (hbusy : w ≠ .idle) :
    0 < p.stepsLeft rounds.length w ∧ ((p.work s id).workers[id]? = some .idle ∨
      ∃ rounds' outcomes' w', p.Processing id batch rounds' outcomes' (p.work s id) ∧
        (p.work s id).workers[id]? = some w' ∧
        p.stepsLeft rounds'.length w' < p.stepsLeft rounds.length w) := by
  cases standing_of_processing hattempts htokens h hw with
  | idle => exact absurd rfl hbusy
  | calling hleft =>
    -- an answer makes one round more, which is worth two steps
    refine ⟨Nat.succ_pos _, .inr ?_⟩
    obtain ⟨r, new, hnext⟩ := processing_work_calling h hw hb
    obtain ⟨w', hw', hfollowed⟩ := followed_of_processing hattempts htokens hnext
    refine ⟨_, _, w', hnext, hw', ?_⟩
    have hlength : (rounds ++ [r]).length = rounds.length + 1 := List.length_append
    cases hfollowed.standing with
    | idle => exact Nat.succ_pos _
    | calling hmore =>
      rw [stepsLeft_calling, stepsLeft_calling]
      omega
    | waiting due hmore =>
      rw [stepsLeft_waiting, stepsLeft_calling]
      omega
  | waiting due hleft =>
    refine ⟨Nat.succ_pos _, ?_⟩
    have hwork := work_waiting (p := p) hw
    cases hcancelled : s.cancelled with
    | true =>
      left
      rw [hwork, hcancelled]
      exact getElem?_setWorker_self hw .idle
    | false =>
      right
      have hnext := h.wake hw hcancelled
      rw [← hwork] at hnext
      have hcalling : (p.work s id).workers[id]? = some (.calling
          (((leftOver batch rounds).map (WriteItem.attempted rounds.length)).map
            WriteItem.sent)) := by
        rw [hwork, hcancelled]
        exact getElem?_setWorker_self hw _
      refine ⟨_, _, _, hnext, hcalling, ?_⟩
      rw [stepsLeft_calling, stepsLeft_waiting]
      exact Nat.lt_succ_self _

/-- **Progress.** A worker whose calls are answered is done with a batch after a bounded number of
its own steps. -/
theorem exists_idle (hattempts : ∀ i ∈ batch, i.attempts = 0)
    (htokens : (batch.map (·.token)).Nodup) (hb : ∀ s, ¬p.Breaks s (.worker id)) (d : Nat)
    {rounds : List (Round σ)} {outcomes : List ItemOutcome} {s : Run σ} {w : Worker}
    (h : p.Processing id batch rounds outcomes s) (hw : s.workers[id]? = some w)
    (hd : p.stepsLeft rounds.length w ≤ d) :
    ∃ n ≤ d, ((fun s => p.work s id)^[n] s).workers[id]? = some .idle := by
  induction d generalizing rounds outcomes s w with
  | zero =>
    by_cases hidle : w = .idle
    · exact ⟨0, Nat.le_refl _, hidle ▸ hw⟩
    · exact absurd (stepsLeft_work hattempts htokens (hb s) h hw hidle).1 (Nat.not_lt.2 hd)
  | succ d ih =>
    by_cases hidle : w = .idle
    · exact ⟨0, Nat.zero_le _, hidle ▸ hw⟩
    · obtain ⟨-, hdone | ⟨rounds', outcomes', w', hnext, hw', hless⟩⟩ :=
        stepsLeft_work hattempts htokens (hb s) h hw hidle
      · exact ⟨1, Nat.le_add_left 1 d, hdone⟩
      · obtain ⟨n, hn, hat⟩ := ih hnext hw' (by omega)
        exact ⟨n + 1, Nat.succ_le_succ hn, hat⟩

/-! ### Outcomes of a batch -/

section

variable {rounds : List (Round σ)} {outcomes : List ItemOutcome} {w : Worker}

/-- Every outcome is that of an item of the batch. -/
theorem Followed.own (h : p.Followed batch rounds outcomes w) {o : ItemOutcome}
    (ho : o ∈ outcomes) : ∃ i ∈ batch, o.ticket = i.ticket := by
  have hmem : o.ticket ∈ ItemOutcome.tickets outcomes :=
    Multiset.mem_coe.2 (List.mem_map_of_mem ho)
  have hbatch : o.ticket ∈ WriteItem.tickets batch :=
    h.tickets ▸ Multiset.mem_add.2 (.inl hmem)
  obtain ⟨i, hi, hticket⟩ := List.mem_map.1 (Multiset.mem_coe.1 hbatch)
  exact ⟨i, hi, hticket.symm⟩

/-- No two outcomes are of the same item. -/
theorem Followed.outcomes_nodup (h : p.Followed batch rounds outcomes w)
    (htokens : (batch.map (·.token)).Nodup) : (outcomes.map (·.token)).Nodup := by
  have hle : ItemOutcome.tickets outcomes ≤ WriteItem.tickets batch :=
    h.tickets ▸ Multiset.le_add_right _ _
  have hbatch : ((WriteItem.tickets batch).map (·.token)).Nodup := by
    rwa [WriteItem.tickets, Multiset.map_coe, List.map_map, Multiset.coe_nodup]
  have hnodup := Multiset.nodup_of_le (Multiset.map_le_map (f := (·.token)) hle) hbatch
  rwa [ItemOutcome.tickets, Multiset.map_coe, List.map_map, Multiset.coe_nodup] at hnodup

/-- When a worker is done with a batch, every item of it has one outcome. -/
theorem Followed.filter_eq (h : p.Followed batch rounds outcomes .idle)
    (htokens : (batch.map (·.token)).Nodup) {i : WriteItem} (hi : i ∈ batch) :
    ∃ o, outcomes.filter (·.token = i.token) = [o] := by
  have htickets : ItemOutcome.tickets outcomes = WriteItem.tickets batch := by
    have hall := h.tickets
    rwa [Worker.tickets_idle, add_zero] at hall
  have hmem : i.ticket ∈ ItemOutcome.tickets outcomes :=
    htickets ▸ Multiset.mem_coe.2 (List.mem_map_of_mem hi)
  obtain ⟨o, ho, hticket⟩ := List.mem_map.1 (Multiset.mem_coe.1 hmem)
  have htoken : o.token = i.token := congrArg Ticket.token hticket
  refine ⟨o, ?_⟩
  rw [← htoken]
  exact filter_eq_singleton (h.outcomes_nodup htokens) ho

/-- An item that ends in a round has its outcome. -/
theorem Followed.mem_outcomes (h : p.Followed batch rounds outcomes w) {r : Round σ}
    (hr : r ∈ rounds) {x : WriteItem × SubmitResult} (hx : x ∈ r.items.zip r.results)
    (hended : Submission.isRetried p.options x.1 x.2 = false) :
    Submission.ending p.entity.name p.options x.1 x.2 ∈ outcomes := by
  rw [h.ended]
  refine List.mem_flatMap.2 ⟨r, hr, ?_⟩
  rw [Round.outcomes, Submission.outcomes_settle]
  refine List.mem_map.2 ⟨x, List.mem_filter.2 ⟨hx, ?_⟩, rfl⟩
  rw [hended]
  rfl

end

/-! ### The discipline of retries -/

/-- Whether the service has too many answers for a round or too few. For a single request that goes
for services that know batches only. -/
def Round.Miscounted (p : Pipeline σ) (r : Round σ) : Prop :=
  (r.items.length = 1 → ∀ request,
      p.service.execute request = Service.executeAsBatch p.service.executeAll request) ∧
    ∃ answers, ((p.service.executeAll (r.items.map (·.request))).runOn r.world).1 = .ok answers ∧
      answers.length ≠ r.items.length

/-- How a worker deals with a batch. -/
structure Disciplined (p : Pipeline σ) (id : Nat) (batch : List WriteItem)
    (rounds : List (Round σ)) (outcomes : List ItemOutcome) (t : Run σ) : Prop where
  /-- The service is called at most once more than there are retries. -/
  bound : rounds.length ≤ p.options.retries + 1
  /-- Every call carries the items that all answers before it put off, in their order, and is one
  more attempt. -/
  carried : ∀ k r, rounds[k]? = some r →
    r.items = (leftOver batch (rounds.take k)).map (WriteItem.attempted (k + 1))
  /-- So does a call that is not answered yet. -/
  underWay : ∀ items, t.workers[id]? = some (.calling items) →
    rounds.length ≤ p.options.retries ∧
      items = (leftOver batch rounds).map (WriteItem.attempted (rounds.length + 1))
  /-- The results of a call are what the service answers, each at the place of its item. -/
  answered : ∀ r ∈ rounds,
    Submission.Answered p.service p.options r.world (r.items.map (·.request)) r.results
  /-- To match them to the items by token comes to the same. -/
  matched : ∀ r ∈ rounds,
    Submission.settleByToken p.entity.name p.options r.items (r.items.map (·.token)) r.results =
      Submission.settle p.entity.name p.options r.items r.results
  /-- Every outcome is that of an item of the batch. -/
  own : ∀ o ∈ outcomes, ∃ i ∈ batch, o.ticket = i.ticket
  /-- No two outcomes are of the same item. -/
  distinct : (outcomes.map (·.token)).Nodup
  /-- When the worker is done, every item has one outcome. -/
  ended : t.workers[id]? = some .idle → ∀ i ∈ batch,
    ∃ o, outcomes.filter (·.token = i.token) = [o]
  /-- An outcome counts the calls that carried the item. -/
  attempts : ∀ o ∈ outcomes, o.attempts = rounds.countP (·.carries o.token)
  /-- A success has the response at the place of the item in the last of them. -/
  succeeded : ∀ o ∈ outcomes, ∀ record created output,
    o.outcome = .succeeded record created output →
      ∃ (r : Round σ) (j : Nat) (i : WriteItem), rounds[o.attempts - 1]? = some r ∧
        r.items[j]? = some i ∧ i.token = o.token ∧
        r.results[j]? = some (.done ⟨record, created⟩)
  /-- A failure that may go away by itself is put out after the last attempt only. -/
  exhausted : ∀ o ∈ outcomes, ∀ e, o.outcome = .failed e true →
    o.attempts = p.options.retries + 1
  /-- What is answered otherwise than by a transient failure is not sent again. -/
  final : ∀ (k : Nat) (r : Round σ), rounds[k]? = some r → ∀ x ∈ r.items.zip r.results,
    x.2.isTransient = false → ∀ (k' : Nat) (r' : Round σ), k < k' → rounds[k']? = some r' →
      r'.carries x.1.token = false
  /-- Too many answers or too few fail all items of the call for good. -/
  miscounted : ∀ r ∈ rounds, r.Miscounted p → ∀ i ∈ r.items,
    ∃ e, i.failed p.entity.name e false ∈ outcomes
  /-- The worker is done after a bounded number of its steps, if its calls are answered. -/
  finishes : (∀ s, ¬p.Breaks s (.worker id)) → ∃ n ≤ 2 * p.options.retries + 2,
    ((fun s => p.work s id)^[n] t).workers[id]? = some .idle

section

variable {rounds : List (Round σ)} {outcomes : List ItemOutcome} {w : Worker}

/-- A success has the response at the place of its item in the round in which it ended. -/
theorem Followed.succeeded (h : p.Followed batch rounds outcomes w) {o : ItemOutcome}
    (ho : o ∈ outcomes) {record : Uuid} {created : Bool} {output : Option (Dict Json)}
    (houtcome : o.outcome = .succeeded record created output) :
    ∃ (r : Round σ) (j : Nat) (i : WriteItem), rounds[o.attempts - 1]? = some r ∧
      r.items[j]? = some i ∧ i.token = o.token ∧
      r.results[j]? = some (.done ⟨record, created⟩) := by
  obtain ⟨k, r, ⟨i, result⟩, hr, hx, -, rfl, hattempts⟩ := h.exists_round ho
  obtain ⟨j, hj⟩ := List.mem_iff_getElem?.1 hx
  obtain ⟨hi, hresult⟩ := List.getElem?_zip_eq_some.1 hj
  refine ⟨r, j, i, by rw [hattempts]; exact hr, hi, ?_, ?_⟩
  · exact (congrArg Ticket.token (Submission.ticket_ending _ _ _ _)).symm
  · cases result with
    | failed e retryable => exact nomatch houtcome
    | done response =>
      cases houtcome
      exact hresult

/-- A failure that may go away by itself is put out after the last attempt only. -/
theorem Followed.exhausted (h : p.Followed batch rounds outcomes w) {o : ItemOutcome}
    (ho : o ∈ outcomes) {e : Failure} (houtcome : o.outcome = .failed e true) :
    o.attempts = p.options.retries + 1 := by
  obtain ⟨k, r, ⟨i, result⟩, hr, hx, hended, rfl, hattempts⟩ := h.exists_round ho
  have hk : k < rounds.length := (List.getElem?_eq_some_iff.1 hr).1
  have hbound := h.bound
  cases result with
  | done response => exact nomatch houtcome
  | failed e' retryable =>
    cases houtcome
    have hmore : i.attempts = k + 1 := hattempts
    have hnone : ¬i.attempts ≤ p.options.retries := by
      simpa [Submission.isRetried, Submission.retries] using hended
    rw [hattempts]
    omega

/-- Too many answers or too few fail all items of a round for good. -/
theorem Followed.miscounted (h : p.Followed batch rounds outcomes w) {r : Round σ}
    (hr : r ∈ rounds) (hmiscounted : r.Miscounted p) {i : WriteItem} (hi : i ∈ r.items) :
    ∃ e, i.failed p.entity.name e false ∈ outcomes := by
  obtain ⟨hsingle, answers, hcall, hlength⟩ := hmiscounted
  obtain ⟨j, hj, hat⟩ := List.mem_iff_getElem.1 hi
  have hj' : j < r.results.length := by rwa [h.lengths r hr]
  have hx : (i, r.results[j]) ∈ r.items.zip r.results := by
    refine List.mem_iff_getElem?.2 ⟨j, List.getElem?_zip_eq_some.2 ⟨?_, ?_⟩⟩
    · rw [← hat]
      exact List.getElem?_eq_getElem hj
    · exact List.getElem?_eq_getElem hj'
  obtain ⟨e, he⟩ := Submission.failed_of_miscounted (h.answered r hr)
    (fun hone => hsingle (by rwa [List.length_map] at hone)) hcall
    (by rwa [List.length_map]) _ (List.getElem_mem hj')
  have hended : Submission.isRetried p.options i r.results[j] = false := by
    rw [he]
    rfl
  have ho := h.mem_outcomes hr hx hended
  rw [he] at ho
  exact ⟨e, ho⟩

end

/-- **The discipline of retries.** However a service answers, and whatever the others do in between:
a worker calls it for a batch at most once more than there are retries, each time for those items
that all answers so far have put off, until every item has its one outcome. -/
theorem disciplined_of_processing {rounds : List (Round σ)} {outcomes : List ItemOutcome}
    {t : Run σ} (hattempts : ∀ i ∈ batch, i.attempts = 0)
    (htokens : (batch.map (·.token)).Nodup)
    (hrun : p.Processing id batch rounds outcomes t) :
    p.Disciplined id batch rounds outcomes t := by
  -- each part is read off what is kept of the worker and of its rounds
  obtain ⟨w, hw, h⟩ := followed_of_processing hattempts htokens hrun
  exact {
    bound := h.bound
    carried := h.items
    underWay := by
      intro items hcalling
      cases hw.symm.trans hcalling
      cases h.standing with
      | calling hleft => exact ⟨hleft, rfl⟩
    answered := h.answered
    matched := fun r hr =>
      Submission.settleByToken_eq _ (h.tokens_nodup htokens hr) (h.lengths r hr)
    own := fun o ho => h.own ho
    distinct := h.outcomes_nodup htokens
    ended := by
      intro hidle i hi
      cases hw.symm.trans hidle
      exact h.filter_eq htokens hi
    attempts := by
      intro o ho
      obtain ⟨k, r, x, hr, hx, hended, rfl, hattempts⟩ := h.exists_round ho
      have htoken : (Submission.ending p.entity.name p.options x.1 x.2).token = x.1.token :=
        congrArg Ticket.token (Submission.ticket_ending _ _ _ _)
      rw [hattempts, htoken, h.countP_carries htokens hr hx hended]
    succeeded := fun o ho record created output houtcome => h.succeeded ho houtcome
    exhausted := fun o ho e houtcome => h.exhausted ho houtcome
    final := by
      intro k r hr x hx hfinal k' r' hk hr'
      refine h.not_carries htokens hr hx ?_ hk hr'
      rw [Submission.isRetried_eq, hfinal, Bool.false_and]
    miscounted := fun r hr hmiscounted i hi => h.miscounted hr hmiscounted hi
    finishes := by
      intro hb
      refine exists_idle hattempts htokens hb _ hrun hw ?_
      cases h.standing with
      | calling => rw [stepsLeft_calling]; omega
      | waiting => rw [stepsLeft_waiting]; omega
      | idle => exact Nat.zero_le _ }

/-- A pipeline into a store that sends an item twice at most. -/
def hesitant : Pipeline Store where
  service := Store.service
  entity := .ofName "note"
  options := { WriteOptions.standard with retries := 1, transientCodes := [1] }
  gap := 0
  cancels := fun _ => false

/-- A batch of two new notes. -/
def newNotes : List WriteItem :=
  [1, 2].map fun token => ⟨token, 0, ⟨.ofList []⟩, ⟨.create, .ofEntity "note"⟩, 0⟩

/-- A run at its start, into a store that refuses one request. -/
def lockedOnce : Run Store :=
  hesitant.start ⟨(Store.ofEntities [.ofName "note"]).refuseRequests ⟨1, "locked"⟩ 1, []⟩ []

/-- The first of two notes is refused and sent again, on its own. -/
theorem disciplined_of_processing_locked :
    ∃ rounds outcomes t, hesitant.Processing 0 newNotes rounds outcomes t ∧
      rounds.map (fun r => r.items.map (·.token)) = [[1, 2], [1]] ∧
      outcomes.map (fun o => (o.token, o.attempts)) = [(2, 1), (1, 2)] ∧
      hesitant.Disciplined 0 newNotes rounds outcomes t := by
  have h₀ : hesitant.Processing 0 newNotes [] [] (send lockedOnce 0 newNotes) :=
    .send (Run.worker_of_singleton rfl)
  have h₁ := h₀.answer (Run.worker_of_singleton rfl) rfl (outcomes_settled _ 0 _)
  have h₂ := h₁.wake (Run.worker_of_singleton rfl) rfl
  have h := h₂.answer (Run.worker_of_singleton rfl) rfl (outcomes_settled _ 0 _)
  exact ⟨_, _, _, h, rfl, rfl, disciplined_of_processing (by simp [newNotes]) (by decide) h⟩

/-! ### Runs -/

/-- A worker that takes a batch sends it. -/
theorem processing_receive {s : Run σ} {queue : List (List WriteItem)}
    (hw : s.workers[id]? = some .idle) (hqueue : s.queue = batch :: queue)
    (hnot : s.cancelled = false) : p.Processing id batch [] [] (p.receive s id) := by
  have hsend : p.receive s id =
      send (({ s with queue } : Run σ).note (p.receiveLine id batch)) id batch := by
    unfold receive
    rw [hqueue]
    dsimp only
    rw [if_neg (by rw [hnot]; exact Bool.false_ne_true)]
  rw [hsend]
  exact .send hw

/-- Every step of a run that is not cancelled goes on with the batch of a worker. -/
theorem processing_step {rounds : List (Round σ)} {outcomes : List ItemOutcome} {s t : Run σ}
    {r : Option Reading} (h : p.Processing id batch rounds outcomes s)
    (hbusy : s.workers[id]? ≠ some .idle) (hnot : s.cancelled = false) (hstep : p.Step s r t) :
    ∃ rounds' outcomes', p.Processing id batch (rounds ++ rounds') (outcomes ++ outcomes') t := by
  rcases worker_step hstep id with hsame | hown
  · refine ⟨[], [], ?_⟩
    rw [List.append_nil, List.append_nil]
    exact h.others hsame
  · cases hown with
    | receive hw => exact absurd hw hbusy
    | answer hw hcall => exact ⟨_, _, h.answer hw hcall (outcomes_settled _ id _)⟩
    | wake hw =>
      refine ⟨[], [], ?_⟩
      rw [List.append_nil, List.append_nil]
      exact h.wake hw hnot

end Pipeline

end RecordService
