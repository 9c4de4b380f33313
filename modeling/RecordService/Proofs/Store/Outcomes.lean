import RecordService.Proofs.Store.Submission

namespace RecordService

/-!
# How items end in a store

A store without pending faults refuses a request for one of few reasons. When the options take
none of them for transient, every item that is sent ends at once, and how it ends does not hang on
which other items are sent with it.

* `Fault.storeCodes`, `Store.code_receiveAll`: the codes of what a store refuses.
* `Store.Calm`, `Store.Calm.runOn_executeAll`: a store without pending faults.
* `Store.outcomes`, `Store.outcomes_append`: the outcomes of items that arrive one after the other.
* `Submission.settle_told`: every item of a call ends with its outcome.
-/

/-! ### What a store refuses -/

/-- The codes of the faults by which a store refuses requests on its own. -/
def Fault.storeCodes : List Int32 :=
  [missingCode, duplicateCode, noAttributeCode, invalidCode]

/-- Checking a value fails by faults that a store has on its own. -/
theorem Entity.code_checkValue {e : Entity} {creating : Bool} {name : String} {v : Value}
    {fault : Fault} (h : e.checkValue creating name v = .error fault) :
    fault.code ∈ Fault.storeCodes := by
  unfold checkValue at h
  cases hfind : e.attribute? name with
  | none =>
    rw [hfind] at h
    cases h
    simp [Fault.storeCodes]
  | some a =>
    rw [hfind] at h
    dsimp only at h
    cases hwritable : (if creating then a.validForCreate else a.validForUpdate) with
    | false =>
      rw [hwritable] at h
      cases h
      simp [Fault.storeCodes]
    | true =>
      cases haccepts : a.accepts v with
      | false =>
        rw [hwritable, haccepts] at h
        cases h
        simp [Fault.storeCodes]
      | true =>
        rw [hwritable, haccepts] at h
        exact nomatch h

/-- Checking a record fails by faults that a store has on its own. -/
theorem Entity.code_check {e : Entity} {creating : Bool} {r : Record} {fault : Fault}
    (h : e.check creating r = .error fault) : fault.code ∈ Fault.storeCodes := by
  unfold check at h
  revert h
  induction r.attributes.entries with
  | nil => exact fun h => nomatch h
  | cons entry entries ih =>
    show (e.checkValue creating entry.1 entry.2 >>= fun _ => List.forM entries _) = _ → _
    cases hvalue : e.checkValue creating entry.1 entry.2 with
    | error other =>
      intro h
      cases h
      exact code_checkValue hvalue
    | ok u => exact ih

namespace Store

/-- Checking whether a record is there fails by faults that a store has on its own. -/
theorem code_checkExistence {s : Store} {e : Entity} {request : WriteRequest} {fault : Fault}
    (h : s.checkExistence e request = .error fault) : fault.code ∈ Fault.storeCodes := by
  unfold checkExistence at h
  dsimp only at h
  split at h
  · cases h
    simp [Fault.storeCodes]
  · cases h
    simp [Fault.storeCodes]
  · exact nomatch h

/-- A request is refused because something is missing, is there already, or does not fit. -/
theorem code_write {s : Store} {request : WriteRequest} {fault : Fault}
    (h : s.write request = .error fault) : fault.code ∈ Fault.storeCodes := by
  unfold write at h
  cases he : s.entity request.record.entity with
  | error other =>
    rw [he] at h
    cases h
    unfold entity at he
    split at he
    · exact nomatch he
    · cases he
      simp [Fault.storeCodes, Fault.unknownEntity]
  | ok e =>
    rw [he] at h
    simp only [bind, Except.bind] at h
    cases hexists : s.checkExistence e request with
    | error other =>
      rw [hexists] at h
      cases h
      exact code_checkExistence hexists
    | ok u =>
      rw [hexists] at h
      dsimp only at h
      cases hcheck : e.check (s.existing? e request.record).isNone request.record with
      | error other =>
        rw [hcheck] at h
        cases h
        exact Entity.code_check hcheck
      | ok u' =>
        rw [hcheck] at h
        exact nomatch h

/-! ### Stores without pending faults -/

/-- No faults are pending. -/
structure Calm (s : Store) : Prop where
  requestFault : s.requestFault = none
  callFault : s.callFault = none

/-- However a request is received, no fault is pending after it if none was before. -/
theorem Calm.received {s s' : Store} (h : s.Calm) {request : WriteRequest}
    {result : Except Fault WriteResponse} (hreceived : s.Received request result s') :
    s'.Calm := by
  cases hreceived with
  | due hfault => exact nomatch h.requestFault.symm.trans hfault
  | refused => exact h
  | done _ hwrite =>
    obtain ⟨e, -, -, -, -, rfl⟩ := write_eq_ok.1 hwrite
    exact ⟨(requestFault_identify s _).trans h.requestFault,
      (callFault_identify s _).trans h.callFault⟩

/-- A request that arrives leaves no fault pending. -/
theorem Calm.receive {s : Store} (h : s.Calm) (request : WriteRequest) :
    (s.receive request).2.Calm :=
  h.received (received_receive s request)

/-- Requests that arrive one after the other leave no fault pending. -/
theorem Calm.receiveAll {s : Store} (h : s.Calm) (requests : List WriteRequest) :
    (s.receiveAll requests).2.Calm :=
  receiveAll_keeps (fun _ request h => h.receive request) h requests

/-- Counting calls leaves no fault pending. -/
theorem Calm.count {s : Store} (h : s.Calm) (f : CallCounts → CallCounts) : (s.count f).Calm :=
  ⟨h.requestFault, h.callFault⟩

/-- Counting the calls of a batch leaves no fault pending. -/
theorem Calm.countBatch {s : Store} (h : s.Calm) (size : Nat) : (s.countBatch size).Calm :=
  h.count _

/-- Without pending faults, the requests of a batch arrive one after the other. -/
theorem Calm.runOn_executeAll {w : World Store} (h : w.state.Calm)
    (requests : List WriteRequest) :
    ∃ journal, (executeAll requests).runOn w =
      (.ok (w.state.receiveAll requests).1,
        ⟨(w.state.receiveAll requests).2.countBatch requests.length, journal⟩) := by
  obtain ⟨journal, hrun⟩ := Store.runOn_executeAll w requests
  rw [h.callFault] at hrun
  dsimp only at hrun
  rw [Store.countBatch, receiveAll_count] at hrun
  exact ⟨journal, hrun⟩

/-- What is refused is refused by the store on its own. -/
theorem Calm.code_receive {s : Store} (h : s.Calm) {request : WriteRequest} {fault : Fault}
    (hresult : (s.receive request).1 = .error fault) : fault.code ∈ Fault.storeCodes := by
  rw [Store.receive, h.requestFault] at hresult
  dsimp only at hresult
  split at hresult
  · exact nomatch hresult
  · rename_i other hwrite
    cases hresult
    exact code_write hwrite

/-! ### Outcomes -/

/-- How an item ends by the result of its request. -/
def ended (entity : String) (o : WriteOptions) (i : WriteItem) :
    Except Fault WriteResponse → ItemOutcome
  | .ok response => Submission.succeeded entity o i response
  | .error fault => i.failed entity (.of (.remoteFault fault false)) false

/-- The outcomes of items that arrive one after the other. -/
def outcomes (s : Store) (entity : String) (o : WriteOptions) (items : List WriteItem) :
    List ItemOutcome :=
  List.zipWith (ended entity o) items (s.receiveAll (items.map (·.request))).1

/-- Where a batch ends makes no difference. -/
theorem outcomes_append (s : Store) (entity : String) (o : WriteOptions)
    (as bs : List WriteItem) :
    s.outcomes entity o (as ++ bs) =
      s.outcomes entity o as ++
        (s.receiveAll (as.map (·.request))).2.outcomes entity o bs := by
  unfold outcomes
  rw [List.map_append, receiveAll_append, List.zipWith_append]
  rw [length_receiveAll, List.length_map]

/-- Counting calls makes no difference to what items end with. -/
theorem outcomes_count (s : Store) (f : CallCounts → CallCounts) (entity : String)
    (o : WriteOptions) (items : List WriteItem) :
    (s.count f).outcomes entity o items = s.outcomes entity o items := by
  unfold outcomes
  rw [receiveAll_count]

end Store

/-- Whether nothing that a store refuses on its own is sent again. -/
def WriteOptions.Decisive (o : WriteOptions) : Prop :=
  ∀ code ∈ Fault.storeCodes, o.isTransient code = false

/-- None of the codes that are known to be transient is one of a store. -/
theorem Fault.contains_transientCodes {code : Int32} (h : code ∈ storeCodes) :
    transientCodes.contains code = false := by
  have hall : storeCodes.all (!transientCodes.contains ·) = true := by decide
  rw [← Bool.not_eq_true']
  exact List.all_eq_true.1 hall code h

/-- With the codes that are known to be transient, nothing that a store refuses is sent again. -/
theorem WriteOptions.decisive_of_transientCodes {o : WriteOptions}
    (h : o.transientCodes = RecordService.transientCodes) : o.Decisive := by
  intro code hcode
  rw [isTransient, h]
  exact Fault.contains_transientCodes hcode

namespace Submission

/-- An item that is told its result ends with it. -/
theorem settleOne_told (entity : String) {o : WriteOptions} (ho : o.Decisive) (i : WriteItem)
    {result : Except Fault WriteResponse} {r : SubmitResult} (h : Told o result r)
    (hcode : ∀ fault, result = .error fault → fault.code ∈ Fault.storeCodes) :
    (settleOne entity o i r).outcomes = [Store.ended entity o i result] ∧
      (settleOne entity o i r).retry = [] := by
  cases h with
  | done response => exact ⟨rfl, rfl⟩
  | failed fault hmarked =>
    have hmem := hcode fault rfl
    rw [ho _ hmem, Fault.contains_transientCodes hmem, or_self] at hmarked
    rw [hmarked, ho _ hmem]
    exact ⟨rfl, rfl⟩

/-- **Settling.** Every item of a call that a store answers ends with its outcome, and none is
sent again. -/
theorem settle_told (entity : String) {o : WriteOptions} (ho : o.Decisive) {s : Store}
    (hs : s.Calm) {items : List WriteItem} {results : List SubmitResult}
    (h : List.Forall₂ (Told o) (s.receiveAll (items.map (·.request))).1 results) :
    (settle entity o items results).outcomes = s.outcomes entity o items ∧
      (settle entity o items results).retry = [] := by
  induction items generalizing s results with
  | nil => exact ⟨rfl, rfl⟩
  | cons i items ih =>
    rw [List.map_cons, Store.receiveAll_cons] at h
    obtain ⟨r, results, htold, hrest, rfl⟩ := List.forall₂_cons_left_iff.1 h
    obtain ⟨hone, honeRetry⟩ := settleOne_told entity ho i htold
      fun _ => hs.code_receive
    obtain ⟨houtcomes, hretry⟩ := ih (hs.receive i.request) hrest
    rw [settle, Settlement.append, hone, honeRetry, houtcomes, hretry]
    exact ⟨rfl, rfl⟩

end Submission

end RecordService
