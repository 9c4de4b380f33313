import RecordService.Proofs.Store.Outcomes

namespace RecordService

/-!
# Batches with failures

A request of a batch that fails leaves nothing behind, not even a number that an identity was made
of. So a batch comes to what its successful requests come to, and each request is answered as if it
had come alone after those before it.

* `chosen`: the members of a list at some places.
* `Store.Calm.receive_of_error`: a request that fails changes nothing.
* `Store.receiveAll_take`: the requests at the beginning of a batch.
* `Store.Calm.receiveAll_chosen`: a batch without some of its failures.
* `Store.Calm.executeAll_chosen`: the same of the calls of a store.
-/

/-- The members at the places that are kept, in order. -/
def chosen {α : Type} (keep : Nat → Bool) : List α → List α
  | [] => []
  | x :: xs =>
    if keep 0 then x :: chosen (fun i => keep (i + 1)) xs else chosen (fun i => keep (i + 1)) xs

namespace Store

variable {s : Store} {request : WriteRequest} {requests : List WriteRequest} {keep : Nat → Bool}

/-! ### Requests that fail -/

/-- A request that fails changes nothing. -/
theorem Calm.receive_of_error (h : s.Calm) {fault : Fault}
    (hfail : (s.receive request).1 = .error fault) : (s.receive request).2 = s := by
  have hreceived := received_receive s request
  generalize s.receive request = answer at hfail hreceived
  obtain ⟨result, s'⟩ := answer
  cases hreceived with
  | due hfault => exact nomatch h.requestFault.symm.trans hfault
  | done => exact nomatch hfail
  | refused => rfl

/-- **Failures.** A batch without some of its requests that fail leaves the same store, and the
requests that are left are answered alike. -/
theorem Calm.receiveAll_chosen (h : s.Calm)
    (hkeep : ∀ i response, (s.receiveAll requests).1[i]? = some (.ok response) → keep i = true) :
    s.receiveAll (chosen keep requests) =
      (chosen keep (s.receiveAll requests).1, (s.receiveAll requests).2) := by
  induction requests generalizing s keep with
  | nil => rfl
  | cons request requests ih =>
    rw [receiveAll_cons] at hkeep ⊢
    have hrest : ∀ i response, ((s.receive request).2.receiveAll requests).1[i]? =
        some (.ok response) → keep (i + 1) = true := fun i => hkeep (i + 1)
    have hlater := ih (h.receive request) hrest
    cases hfirst : keep 0 with
    | true => rw [chosen, chosen, if_pos hfirst, if_pos hfirst, receiveAll_cons, hlater]
    | false =>
      -- the first request is left out, and so it has failed and the store is what it was
      have hsame : (s.receive request).2 = s := by
        cases hresult : (s.receive request).1 with
        | error fault => exact h.receive_of_error hresult
        | ok response =>
          have hkept := hkeep 0 response (congrArg some hresult)
          exact absurd (hfirst.symm.trans hkept) Bool.false_ne_true
      rw [chosen, chosen, hfirst, if_neg Bool.false_ne_true, if_neg Bool.false_ne_true]
      rw [hsame] at hlater ⊢
      exact hlater

/-! ### Requests at the beginning -/

/-- The requests at the beginning of a batch are answered as they are without the others. -/
theorem receiveAll_take (s : Store) (requests : List WriteRequest) (i : Nat) :
    (s.receiveAll (requests.take i)).1 = (s.receiveAll requests).1.take i := by
  induction requests generalizing s i with
  | nil => simp
  | cons request requests ih =>
    cases i with
    | zero => rfl
    | succ i => rw [List.take_succ_cons, receiveAll_cons, receiveAll_cons, ih, List.take_succ_cons]

/-- A request is answered as it is after those before it. -/
theorem getElem?_receiveAll (s : Store) {i : Nat} (h : requests[i]? = some request) :
    (s.receiveAll requests).1[i]? =
      some ((s.receiveAll (requests.take i)).2.receive request).1 := by
  induction requests generalizing s i with
  | nil => exact nomatch h
  | cons first requests ih =>
    cases i with
    | zero =>
      obtain rfl : first = request := Option.some.inj h
      rfl
    | succ i => exact ih _ h

/-! ### Calls -/

/-- **Batches.** A batch has one result for each request, in order: the one that the request gets
when it comes alone, after those before it. A request that fails changes no table. Without some of
its requests that fail, a batch leaves the same tables and gives out the same identities, and the
requests that are left have the same results. -/
theorem Calm.executeAll_chosen {w : World Store} (h : w.state.Calm)
    (requests : List WriteRequest) :
    ∃ results u, (executeAll requests).runOn w = (.ok results, u) ∧
      results.length = requests.length ∧
      (∀ i request, requests[i]? = some request → ∃ result v v' u',
        (executeAll (requests.take i)).runOn w = (.ok (results.take i), v) ∧
          (executeAll [request]).runOn v = (.ok [result], v') ∧ results[i]? = some result ∧
          (executeAll (requests.take (i + 1))).runOn w = (.ok (results.take (i + 1)), u') ∧
          u'.state.tables = v'.state.tables ∧
          ∀ fault, result = .error fault → v'.state.tables = v.state.tables) ∧
      ∀ keep : Nat → Bool, (∀ i response, results[i]? = some (.ok response) → keep i = true) →
        ∃ v, (executeAll (chosen keep requests)).runOn w = (.ok (chosen keep results), v) ∧
          v.state.tables = u.state.tables ∧ v.state.issued = u.state.issued := by
  obtain ⟨journal, hrun⟩ := h.runOn_executeAll requests
  refine ⟨_, _, hrun, length_receiveAll _ _, ?_, ?_⟩
  · -- the requests before it, then the request alone, and both of them in one batch
    intro i request hi
    obtain ⟨before, hbefore⟩ := h.runOn_executeAll (requests.take i)
    obtain ⟨after, hafter⟩ := h.runOn_executeAll (requests.take (i + 1))
    rw [receiveAll_take] at hbefore hafter
    have hcalm := h.receiveAll (requests.take i)
    obtain ⟨alone, halone⟩ := Calm.runOn_executeAll
      (w := ⟨(w.state.receiveAll (requests.take i)).2.countBatch (requests.take i).length, before⟩)
      (hcalm.countBatch _) [request]
    dsimp only at halone
    rw [Store.countBatch, receiveAll_count] at halone
    have hnext : requests.take (i + 1) = requests.take i ++ [request] := by
      rw [List.take_add_one, hi, Option.toList_some]
    refine ⟨_, _, _, _, hbefore, halone, getElem?_receiveAll _ hi, hafter, ?_, ?_⟩
    · rw [hnext, receiveAll_append]
      rfl
    · intro fault hfault
      have hsame := congrArg Store.tables (hcalm.receive_of_error hfault)
      exact hsame
  · intro keep hkeep
    obtain ⟨journal', hrun'⟩ := h.runOn_executeAll (chosen keep requests)
    rw [h.receiveAll_chosen hkeep] at hrun'
    exact ⟨_, hrun', rfl, rfl⟩

/-- A store for notes, with one note. -/
def notebook : Store :=
  ((ofEntities [(Entity.ofName "note").declare (.ofType "rank" .integer)]).insert
    ⟨"note", none, .empty⟩).2

/-- Two notes without identity, and between them one that exists already and one with a title. -/
def draftRequests : List WriteRequest :=
  [⟨.create, ⟨"note", none, .ofList [("rank", .int32 (some 1))]⟩⟩,
    ⟨.create, ⟨"note", some (.numbered 1), .empty⟩⟩,
    ⟨.create, ⟨"note", none, .ofList [("rank", .int32 (some 2)), ("title", .text none)]⟩⟩,
    ⟨.create, ⟨"note", none, .empty⟩⟩]

/-- Notes have no title. Without the note that has one, the last note gets the same identity. -/
theorem Calm.executeAll_chosen_drafts :
    ∃ results u v, (executeAll draftRequests).runOn ⟨notebook, []⟩ = (.ok results, u) ∧
      results.map (·.toOption) =
        [some ⟨.numbered 2, true⟩, none, none, some ⟨.numbered 3, true⟩] ∧
      (executeAll (chosen (· != 2) draftRequests)).runOn ⟨notebook, []⟩ =
        (.ok (chosen (· != 2) results), v) ∧ v.state.tables = u.state.tables := by
  obtain ⟨results, u, hrun, -, -, hchosen⟩ :=
    executeAll_chosen (w := ⟨notebook, []⟩) ⟨rfl, rfl⟩ draftRequests
  have hresults := Except.ok.inj (congrArg Prod.fst hrun)
  have hkeep : ∀ i response, results[i]? = some (.ok response) → (i != 2) = true := by
    rintro i response hi
    refine bne_iff_ne.2 fun heq => ?_
    rw [← hresults, heq] at hi
    exact nomatch hi
  obtain ⟨v, hv, htables, -⟩ := hchosen (· != 2) hkeep
  refine ⟨results, u, v, hrun, ?_, hv, htables⟩
  rw [← hresults]
  rfl

end Store

end RecordService
