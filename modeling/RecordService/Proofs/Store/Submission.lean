import RecordService.Proofs.Store.Calls
import RecordService.Write.Submission
import Mathlib.Data.List.Forall2

namespace RecordService.Submission

/-!
# Submission to a store

A store always answers, so that the worker who sent requests never breaks off. What each of them
is told is what the store did with it at its place, whether they came alone or together.

* `Told`: what a request is told of its result.
* `Submitted`, `submitted_submit`: what the submission of requests comes to.
-/

/-- What a request is told of its result. Whether a fault is marked as transient depends on the
call: a single request is told by the codes that are known to be, a batch by those of the
options. Whether it is sent again depends on the options alone. -/
inductive Told (o : WriteOptions) : Except Fault WriteResponse → SubmitResult → Prop where
  | done (response : WriteResponse) : Told o (.ok response) (.done response)
  | failed (fault : Fault) {marked : Bool}
      (hmarked : marked = o.isTransient fault.code ∨ marked = transientCodes.contains fault.code) :
      Told o (.error fault) (.failed (.of (.remoteFault fault marked)) (o.isTransient fault.code))

/-- What becomes of requests that are sent together: a pending fault answers the call and none of
them arrives, or they arrive one after the other and each is told its result. -/
inductive Submitted (o : WriteOptions) (s : Store) (requests : List WriteRequest) :
    List SubmitResult → Store → Prop where
  | due {p : PendingFault} (f : CallCounts → CallCounts) (hfault : s.callFault = some p) :
      Submitted o s requests
        (requests.map fun _ => .failed (.of p.fault.toCause) (o.isTransient p.fault.code))
        { s.count f with callFault := p.rest }
  | done {results : List SubmitResult} (f : CallCounts → CallCounts) (hfault : s.callFault = none)
      (htold : List.Forall₂ (Told o) (s.receiveAll requests).1 results) :
      Submitted o s requests results ((s.receiveAll requests).2.count f)

/-- What a request of a batch is told of its result. -/
def tell (o : WriteOptions) : Except Fault WriteResponse → SubmitResult
  | .ok response => .done response
  | .error fault => refused o fault

/-- Results are told one by one. -/
theorem forall₂_tell (o : WriteOptions) (results : List (Except Fault WriteResponse)) :
    List.Forall₂ (Told o) results (results.map (tell o)) := by
  rw [List.forall₂_map_right_iff, List.forall₂_same]
  intro result _
  cases result with
  | ok response => exact .done response
  | error fault => exact .failed fault (.inl rfl)

/-- A request that comes alone is told its result. -/
theorem submitted_submitOne (o : WriteOptions) (w : World Store) (request : WriteRequest) :
    ∃ results w', (submitOne Store.service o request).runOn w = (.ok results, w') ∧
      Submitted o w.state [request] results w'.state := by
  obtain ⟨journal, hrun⟩ := Store.runOn_execute w request
  have hexecute : Store.service.execute request = Store.execute request := rfl
  unfold submitOne
  rw [Call.runOn_bind, Call.runOn_attempt, hexecute, hrun]
  cases hfault : w.state.callFault with
  | some p => exact ⟨_, _, rfl, .due _ hfault⟩
  | none =>
    have hreceive : w.state.countSingle.receive request =
        ((w.state.receive request).1, (w.state.receive request).2.countSingle) :=
      Store.receive_count _ _ _
    dsimp only
    rw [hreceive]
    have hdone : ∀ {result : SubmitResult}, Told o (w.state.receive request).1 result →
        Submitted o w.state [request] [result] (w.state.receive request).2.countSingle :=
      fun htold => @Submitted.done o _ [request] _ _ hfault (.cons htold .nil)
    cases hresult : (w.state.receive request).1 with
    | ok response => exact ⟨_, _, rfl, hdone (hresult ▸ .done response)⟩
    | error fault => exact ⟨_, _, rfl, hdone (hresult ▸ .failed fault (.inr rfl))⟩

/-- Requests that come together are told their results, each at its place. -/
theorem submitted_submitAll (o : WriteOptions) (w : World Store) (requests : List WriteRequest) :
    ∃ results w', (submitAll Store.service o requests).runOn w = (.ok results, w') ∧
      Submitted o w.state requests results w'.state := by
  obtain ⟨journal, hrun⟩ := Store.runOn_executeAll w requests
  have hexecute : Store.service.executeAll requests = Store.executeAll requests := rfl
  unfold submitAll
  rw [Call.runOn_bind, Call.runOn_attempt, hexecute, hrun]
  cases hfault : w.state.callFault with
  | some p => exact ⟨_, _, rfl, .due _ hfault⟩
  | none =>
    have hreceive : (w.state.countBatch requests.length).receiveAll requests =
        ((w.state.receiveAll requests).1,
          (w.state.receiveAll requests).2.countBatch requests.length) :=
      Store.receiveAll_count _ _ _
    -- there are as many results as requests, so that each request is told its own
    have hlength := w.state.length_receiveAll requests
    dsimp only
    rw [hreceive]
    have hdone : Submitted o w.state requests ((w.state.receiveAll requests).1.map (tell o))
        ((w.state.receiveAll requests).2.countBatch requests.length) :=
      @Submitted.done o _ requests _ _ hfault (forall₂_tell o _)
    refine ⟨_, ⟨_, journal⟩, ?_, hdone⟩
    show Call.runOn _
      (if (w.state.receiveAll requests).1.length = requests.length then _ else _) = _
    rw [if_pos hlength]
    rfl

/-- **Submission.** A store answers whatever is sent, and tells each request its result. -/
theorem submitted_submit (o : WriteOptions) (w : World Store) (requests : List WriteRequest) :
    ∃ results w', (submit Store.service o requests).runOn w = (.ok results, w') ∧
      Submitted o w.state requests results w'.state := by
  unfold submit
  split
  · exact submitted_submitOne o w _
  · exact submitted_submitAll o w _

end RecordService.Submission
