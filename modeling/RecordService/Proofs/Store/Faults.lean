import RecordService.Proofs.Store.Batches

namespace RecordService

/-!
# Faults that are due

A store can be told to refuse the next requests, or the next calls as a whole. The requests are
counted as they arrive, wherever one call ends and the next one begins; a call that is refused as a
whole takes its requests with it before they are counted. So the faults hit the requests that come
next and no other ones, and what comes after them finds the store as it was.

* `WriteCall`, `WriteCall.makeAll`: calls that write, one after the other.
* `Store.receiveAll_refuseRequests`: requests that arrive while faults are due.
* `WriteCall.runOn_make`: a single call, by the requests that arrive with it.
* `WriteCall.makeAll_of_callFault`, `WriteCall.makeAll_refuseCalls`: several calls, by the requests
  that arrive with all of them.
* `WriteCall.makeAll_refuseRequests`: calls while faults are due.
-/

/-- A call that writes. -/
inductive WriteCall where
  | single (request : WriteRequest)
  | batch (requests : List WriteRequest)

namespace WriteCall

/-- The requests that arrive with a call, in their order. -/
def requests : WriteCall → List WriteRequest
  | single request => [request]
  | batch requests => requests

/-- The requests that arrive with some calls, in their order. -/
def arriving (calls : List WriteCall) : List WriteRequest :=
  calls.flatMap requests

/-- Make a call. The response to a request that came alone is its only result. -/
def make : WriteCall → Call Store (List (Except Fault WriteResponse))
  | single request => do return [.ok (← Store.execute request)]
  | batch requests => Store.executeAll requests

/-- Make calls one after the other, whatever they answer. -/
def makeAll (w : World Store) :
    List WriteCall → List (Answer (List (Except Fault WriteResponse))) × World Store
  | [] => ([], w)
  | call :: calls =>
    let (answer, w) := call.make.runOn w
    let (answers, w) := makeAll w calls
    (answer :: answers, w)

/-- How a call is counted. -/
def counted : WriteCall → CallCounts → CallCounts
  | single _, c => { c with singles := c.singles + 1, requests := c.requests + 1 }
  | batch requests, c =>
    { c with batches := c.batches + 1, requests := c.requests + requests.length }

/-- What a call answers by the results of its requests: a request that came alone and is refused
fails its call. -/
def answer : WriteCall → List (Except Fault WriteResponse) →
    Answer (List (Except Fault WriteResponse))
  | single _, [.error fault] => .error (.of fault.toCause)
  | _, results => .ok results

/-- What calls answer by the results of the requests that arrive with them. -/
def answers : List WriteCall → List (Except Fault WriteResponse) →
    List (Answer (List (Except Fault WriteResponse)))
  | [], _ => []
  | call :: calls, results =>
    call.answer (results.take call.requests.length) ::
      answers calls (results.drop call.requests.length)

end WriteCall

/-! ### Requests -/

namespace Store

/-- A request uses up one of the faults that requests are refused by, and none of those that calls
are refused by. -/
theorem faults_receive (s : Store) (request : WriteRequest) :
    (s.receive request).2.requestFault = s.requestFault.bind PendingFault.rest ∧
      (s.receive request).2.callFault = s.callFault := by
  have hreceived := received_receive s request
  generalize s.receive request = answer at hreceived
  obtain ⟨result, s'⟩ := answer
  cases hreceived with
  | due hfault => simp [hfault]
  | refused hfault =>
    have hnone : s'.requestFault = none := hfault
    simp [hnone]
  | done hfault hwrite =>
    obtain ⟨e, -, -, -, -, rfl⟩ := write_eq_ok.1 hwrite
    simp [hfault]

/-- The requests of a batch use up no fault of a call. -/
@[simp] theorem callFault_receiveAll (s : Store) (requests : List WriteRequest) :
    (s.receiveAll requests).2.callFault = s.callFault :=
  receiveAll_keeps (P := fun t => t.callFault = s.callFault)
    (fun t request h => (t.faults_receive request).2.trans h) rfl requests

/-- Without a fault that is due, none becomes due. -/
theorem requestFault_receiveAll {s : Store} (h : s.requestFault = none)
    (requests : List WriteRequest) : (s.receiveAll requests).2.requestFault = none := by
  refine receiveAll_keeps (P := fun t => t.requestFault = none) ?_ h requests
  intro t request hnone
  rw [(t.faults_receive request).1, hnone, Option.bind_none]

/-- A store that refuses no requests. -/
def unfaulted (s : Store) : Store :=
  { s with requestFault := none }

/-- To refuse no requests makes no difference where none were to be refused. -/
theorem refuseRequests_zero {s : Store} (h : s.requestFault = none) (fault : Fault) :
    s.refuseRequests fault 0 = s := by
  obtain ⟨tables, requestFault, callFault, calls, issued⟩ := s
  cases h
  rfl

/-- To refuse no calls leaves the store as it is. -/
theorem refuseCalls_zero {s : Store} (h : s.callFault = none) (fault : Fault) :
    s.refuseCalls fault 0 = s := by
  obtain ⟨tables, requestFault, callFault, calls, issued⟩ := s
  cases h
  rfl

/-- A request that arrives while faults are due is refused, and one fault less is due. -/
theorem receive_refuseRequests (s : Store) (fault : Fault) (n : Nat) (request : WriteRequest) :
    (s.refuseRequests fault (n + 1)).receive request =
      (.error fault, s.refuseRequests fault n) := rfl

/-- **Requests.** So many requests as faults are due are refused, and those behind them are
received as if there had been neither. -/
theorem receiveAll_refuseRequests (s : Store) (fault : Fault) (n : Nat)
    (requests : List WriteRequest) :
    (s.refuseRequests fault n).receiveAll requests =
      (List.replicate (min n requests.length) (.error fault) ++
          (s.unfaulted.receiveAll (requests.drop n)).1,
        (s.unfaulted.receiveAll (requests.drop n)).2.refuseRequests fault
          (n - requests.length)) := by
  induction n generalizing requests with
  | zero =>
    have hnone : (s.unfaulted.receiveAll requests).2.requestFault = none :=
      requestFault_receiveAll rfl requests
    simp only [Nat.zero_min, Nat.zero_sub, List.replicate_zero, List.nil_append, List.drop_zero]
    rw [refuseRequests_zero hnone]
    rfl
  | succ n ih =>
    cases requests with
    | nil => rfl
    | cons request requests =>
      rw [receiveAll_cons, receive_refuseRequests, ih]
      simp [Nat.succ_min_succ, List.replicate_succ]

end Store

/-! ### Calls -/

namespace WriteCall

open Store

/-- **A call** is refused as a whole if that is due. Otherwise it answers by the results of its
requests. -/
theorem runOn_make (call : WriteCall) (w : World Store) :
    ∃ journal, call.make.runOn w =
      match w.state.callFault with
      | some p =>
        (.error (.of p.fault.toCause),
          ⟨{ w.state.count call.counted with callFault := p.rest }, journal⟩)
      | none =>
        (call.answer (w.state.receiveAll call.requests).1,
          ⟨(w.state.receiveAll call.requests).2.count call.counted, journal⟩) := by
  cases call with
  | single request =>
    obtain ⟨journal, hrun⟩ := runOn_execute w request
    refine ⟨journal, ?_⟩
    rw [make, Call.runOn_bind, hrun]
    cases w.state.callFault with
    | some p => rfl
    | none =>
      dsimp only [requests]
      rw [countSingle, receive_count, receiveAll_cons]
      -- the call fails with its request
      cases (w.state.receive request).1 with
      | error fault => rfl
      | ok response => rfl
  | batch requests =>
    obtain ⟨journal, hrun⟩ := runOn_executeAll w requests
    refine ⟨journal, ?_⟩
    rw [make, hrun]
    cases w.state.callFault with
    | some p => rfl
    | none =>
      rw [countBatch, receiveAll_count]
      rfl

theorem makeAll_cons (w : World Store) (call : WriteCall) (calls : List WriteCall) :
    makeAll w (call :: calls) =
      ((call.make.runOn w).1 :: (makeAll (call.make.runOn w).2 calls).1,
        (makeAll (call.make.runOn w).2 calls).2) := rfl

theorem arriving_cons (call : WriteCall) (calls : List WriteCall) :
    arriving (call :: calls) = call.requests ++ arriving calls := rfl

/-- Calls that are not refused as a whole answer by the results of the requests that arrive with
them, as if these had come one after the other without any calls. -/
theorem makeAll_of_callFault {w : World Store} (h : w.state.callFault = none)
    (calls : List WriteCall) :
    ∃ f journal, makeAll w calls =
      (answers calls (w.state.receiveAll (arriving calls)).1,
        ⟨(w.state.receiveAll (arriving calls)).2.count f, journal⟩) := by
  induction calls generalizing w with
  | nil => exact ⟨id, w.journal, rfl⟩
  | cons call calls ih =>
    obtain ⟨journal, hmake⟩ := call.runOn_make w
    rw [h] at hmake
    have hnext : ((w.state.receiveAll call.requests).2.count call.counted).callFault = none :=
      (callFault_receiveAll _ _).trans h
    obtain ⟨f, journal', hrest⟩ :=
      ih (w := ⟨(w.state.receiveAll call.requests).2.count call.counted, journal⟩) hnext
    refine ⟨f ∘ call.counted, journal', ?_⟩
    rw [makeAll_cons, hmake]
    dsimp only
    rw [hrest, receiveAll_count, arriving_cons, receiveAll_append, answers]
    simp only [List.take_left', List.drop_left', length_receiveAll]
    rfl

/-- So many calls as faults are due are refused as a whole, and none of their requests arrives. -/
theorem makeAll_refuseCalls {s : Store} (h : s.callFault = none) (fault : Fault) (n : Nat)
    (journal : List JournalLine) (calls : List WriteCall) :
    ∃ f journal', makeAll ⟨s.refuseCalls fault n, journal⟩ calls =
      (List.replicate (min n calls.length) (.error (.of fault.toCause)) ++
          answers (calls.drop n) (s.receiveAll (arriving (calls.drop n))).1,
        ⟨((s.receiveAll (arriving (calls.drop n))).2.refuseCalls fault
          (n - calls.length)).count f, journal'⟩) := by
  induction n generalizing s journal calls with
  | zero =>
    have hafter : (s.receiveAll (arriving calls)).2.callFault = none := by simp [h]
    obtain ⟨f, journal', hrun⟩ := makeAll_of_callFault (w := ⟨s, journal⟩) h calls
    refine ⟨f, journal', ?_⟩
    simp only [Nat.zero_min, Nat.zero_sub, List.replicate_zero, List.nil_append, List.drop_zero]
    rw [refuseCalls_zero h, refuseCalls_zero hafter, hrun]
  | succ n ih =>
    cases calls with
    | nil => exact ⟨id, journal, rfl⟩
    | cons call calls =>
      obtain ⟨journal₁, hmake⟩ := call.runOn_make ⟨s.refuseCalls fault (n + 1), journal⟩
      have hrefused : call.make.runOn ⟨s.refuseCalls fault (n + 1), journal⟩ =
          (.error (.of fault.toCause), ⟨(s.count call.counted).refuseCalls fault n, journal₁⟩) :=
        hmake
      obtain ⟨f, journal₂, hrest⟩ := ih (s := s.count call.counted) h journal₁ calls
      refine ⟨f ∘ call.counted, journal₂, ?_⟩
      rw [makeAll_cons, hrefused]
      dsimp only
      rw [hrest, receiveAll_count, List.length_cons, Nat.succ_min_succ, List.replicate_succ,
        List.drop_succ_cons, Nat.succ_sub_succ]
      rfl

/-- **Faults that are due.** After a store was told to refuse the next `n` requests, with no call
to be refused, the first `n` requests that arrive are refused and change no table, in whatever
calls they come. The requests behind them have the results, and leave the tables, that they have
and leave when they alone arrive at the same store with nothing due, in whatever calls. Calls that
are refused as a whole make no difference: the other calls answer as they do without them, and as
many requests are still to be refused afterwards. -/
theorem makeAll_refuseRequests {w : World Store} (h : w.state.callFault = none) (fault : Fault)
    (n : Nat) (calls : List WriteCall) :
    (∃ results u,
      makeAll ⟨w.state.refuseRequests fault n, w.journal⟩ calls =
        (answers calls
          (List.replicate (min n (arriving calls).length) (.error fault) ++ results), u) ∧
      results.length = (arriving calls).length - n ∧
      u.state.requestFault = PendingFault.times fault (n - (arriving calls).length) ∧
      ((arriving calls).length ≤ n → u.state.tables = w.state.tables) ∧
      ∀ later journal, arriving later = (arriving calls).drop n →
        ∃ v, makeAll ⟨w.state.unfaulted, journal⟩ later = (answers later results, v) ∧
          v.state.tables = u.state.tables) ∧
      ∀ other k, ∃ results u v,
        makeAll ⟨(w.state.refuseRequests fault n).refuseCalls other k, w.journal⟩ calls =
          (List.replicate (min k calls.length) (.error (.of other.toCause)) ++ results, u) ∧
        makeAll ⟨w.state.refuseRequests fault n, w.journal⟩ (calls.drop k) = (results, v) ∧
        u.state.tables = v.state.tables ∧ u.state.requestFault = v.state.requestFault := by
  constructor
  · obtain ⟨f, journal, hrun⟩ := makeAll_of_callFault
      (w := ⟨w.state.refuseRequests fault n, w.journal⟩) h calls
    dsimp only at hrun
    rw [receiveAll_refuseRequests] at hrun
    -- the results are known from what arrives, so the other calls need not be looked at
    refine ⟨_, _, hrun, by simp, rfl, ?_, ?_⟩
    · intro hfew
      rw [List.drop_eq_nil_of_le hfew]
      rfl
    · intro later journal' hlater
      obtain ⟨f', journal'', hplain⟩ :=
        makeAll_of_callFault (w := ⟨w.state.unfaulted, journal'⟩) h later
      dsimp only at hplain
      rw [hlater] at hplain
      exact ⟨_, hplain, rfl⟩
  · intro other k
    obtain ⟨f, journal, hrun⟩ :=
      makeAll_refuseCalls (s := w.state.refuseRequests fault n) h other k w.journal calls
    obtain ⟨f', journal', hplain⟩ := makeAll_of_callFault
      (w := ⟨w.state.refuseRequests fault n, w.journal⟩) h (calls.drop k)
    exact ⟨_, _, _, hrun, hplain, rfl, rfl⟩

/-- A store is busy. -/
def busy : Fault :=
  ⟨-2147015902, "Too many requests"⟩

/-- A note that comes alone, and a batch of three notes of which the last one exists already. -/
def draftCalls : List WriteCall :=
  [.single ⟨.create, ⟨"note", some (.numbered 2), .empty⟩⟩,
    .batch
      [⟨.create, ⟨"note", some (.numbered 3), .empty⟩⟩,
        ⟨.create, ⟨"note", none, .empty⟩⟩,
        ⟨.create, ⟨"note", some (.numbered 1), .empty⟩⟩]]

/-- Two faults are due. They refuse the note that comes alone and the first one of the batch, and
the notes behind these are received as they are without any faults. When the call of the first note
is refused as a whole, both faults hit the batch. -/
theorem makeAll_refuseRequests_busy :
    notebook.callFault = none ∧
      ∃ results rest u v u',
        makeAll ⟨notebook.refuseRequests busy 2, []⟩ draftCalls =
          ([.error (.of busy.toCause), .ok (.error busy :: results)], u) ∧
        results.map (·.toOption) = [some ⟨.numbered 2, true⟩, none] ∧
        makeAll ⟨notebook, []⟩ [.batch ((arriving draftCalls).drop 2)] = ([.ok results], v) ∧
        v.state.tables = u.state.tables ∧
        makeAll ⟨(notebook.refuseRequests busy 2).refuseCalls busy 1, []⟩ draftCalls =
          (.error (.of busy.toCause) :: rest, u') ∧
        rest.map (·.toOption.map (·.map (·.toOption))) = [some [none, none, none]] := by
  obtain ⟨⟨results, u, hrun, hlength, -, -, hlater⟩, hcalls⟩ :=
    makeAll_refuseRequests (w := ⟨notebook, []⟩) rfl busy 2 draftCalls
  obtain ⟨v, hplain, htables⟩ := hlater [.batch ((arriving draftCalls).drop 2)] [] rfl
  obtain ⟨rest, u', v', hrefused, hrest, -⟩ := hcalls busy 1
  obtain ⟨a, b, rfl⟩ := List.length_eq_two.1 hlength
  refine ⟨rfl, [a, b], rest, u, v, u', hrun, ?_, hplain, htables, hrefused, ?_⟩
  · -- the two results are those of the batch on the store without faults
    have hresults := Except.ok.inj (List.head_eq_of_cons_eq (congrArg Prod.fst hplain))
    show ([a, b].take 2).map (·.toOption) = _
    exact (congrArg (List.map (·.toOption)) hresults).symm
  · obtain rfl : _ = rest := congrArg Prod.fst hrest
    rfl

end WriteCall

end RecordService
