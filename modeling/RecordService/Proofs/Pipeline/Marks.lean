import RecordService.Proofs.Pipeline.Retrying
import RecordService.Proofs.Store.Calls

namespace RecordService

/-!
# How faults are marked

An item that fails by a fault is marked twice: its outcome tells whether the failure may go away by
itself, and so does the cause of the failure. The outcome is marked by the codes of the options,
wherever the fault comes from. The cause is marked by them too when it is made from an answer in a
batch. But a request that is sent alone fails as a call, as does a batch that is refused as a whole,
and the cause of a failed call is marked by the store, which knows the usual codes only.

* `Store.Refuses`: the fault by which a store refuses a request of a call.
* `Submission.mark`: the mark in the cause.
* `Submission.failed_of_answered`: both marks of a request that is refused.
* `Pipeline.Refused`: an item that ends by a fault, at its only attempt.
* `Pipeline.Refused.failed`: the failure that its outcome has.
* `Pipeline.reports_agree_iff`: items that are refused alone and together are reported alike exactly
  where the options and the usual codes agree about the fault.
-/

/-! ### Requests that are refused -/

/-- What a fault answers. -/
inductive Extent where
  /-- A call, with all its requests. -/
  | call
  /-- A single request of a call. -/
  | request
  deriving DecidableEq

/-- The fault by which a store refuses the request at a place of a call. -/
inductive Store.Refuses (s : Store) (requests : List WriteRequest) (place : Nat) :
    Extent → Fault → Prop where
  | call {pending : PendingFault} (hplace : place < requests.length)
      (hpending : s.callFault = some pending) : s.Refuses requests place .call pending.fault
  | request {fault : Fault} (hnone : s.callFault = none)
      (hfault : (s.receiveAll requests).1[place]? = some (.error fault)) :
      s.Refuses requests place .request fault

namespace Submission

/-- Whether the cause of a failure is marked as one that may go away by itself, when a call with so
many requests was made. -/
def mark (o : WriteOptions) (requests : Nat) (extent : Extent) (f : Fault) : Bool :=
  if requests = 1 ∨ extent = .call then transientCodes.contains f.code else o.isTransient f.code

variable {o : WriteOptions} {f : Fault}

/-- The only request of a call fails with the call. -/
theorem failed_of_execute {w : World Store} {request : WriteRequest} {place : Nat}
    {extent : Extent} (h : w.state.Refuses [request] place extent f) :
    place = 0 ∧ ((Store.service.execute request).runOn w).1 = .error (.of f.toCause) := by
  obtain ⟨journal, hrun⟩ := Store.runOn_execute w request
  have hrun : ((Store.service.execute request).runOn w).1 = _ := congrArg Prod.fst hrun
  rw [hrun]
  cases h with
  | call hplace hpending =>
    rw [hpending]
    exact ⟨Nat.lt_one_iff.1 hplace, rfl⟩
  | request hnone hfault =>
    rw [hnone]
    have hlength : place < 1 := by
      simpa using (List.getElem?_eq_some_iff.1 hfault).1
    obtain rfl := Nat.lt_one_iff.1 hlength
    have hone : (w.state.receive request).1 = .error f := by
      rw [Store.receiveAll_cons] at hfault
      exact Option.some.inj hfault
    refine ⟨rfl, ?_⟩
    -- to be counted makes no difference to the request
    show ((w.state.countSingle.receive request).1.mapError _) = _
    rw [Store.countSingle, Store.receive_count, hone]
    rfl

/-- A batch fails as a whole, or has the fault at the place of the request. -/
theorem failed_of_executeAll {w : World Store} {requests : List WriteRequest} {place : Nat}
    {extent : Extent} (h : w.state.Refuses requests place extent f) :
    extent = .call ∧
        ((Store.service.executeAll requests).runOn w).1 = .error (.of f.toCause) ∨
      extent = .request ∧ ∃ answers,
        ((Store.service.executeAll requests).runOn w).1 = .ok answers ∧
          answers.length = requests.length ∧ answers[place]? = some (.error f) := by
  obtain ⟨journal, hrun⟩ := Store.runOn_executeAll w requests
  have hrun : ((Store.service.executeAll requests).runOn w).1 = _ := congrArg Prod.fst hrun
  rw [hrun]
  cases h with
  | call hplace hpending =>
    rw [hpending]
    exact .inl ⟨rfl, rfl⟩
  | request hnone hfault =>
    rw [hnone]
    refine .inr ⟨rfl, (w.state.receiveAll requests).1, ?_, Store.length_receiveAll _ _, hfault⟩
    show Except.ok ((w.state.countBatch requests.length).receiveAll requests).1 = _
    rw [Store.countBatch, Store.receiveAll_count]

/-- **Marks.** A request that is refused fails. The result is marked by the codes of the options,
and its cause in the way of the call. -/
theorem failed_of_answered {w : World Store} {requests : List WriteRequest}
    {results : List SubmitResult} (hanswered : Answered Store.service o w requests results)
    {place : Nat} {extent : Extent} (h : w.state.Refuses requests place extent f)
    {result : SubmitResult} (hresult : results[place]? = some result) :
    ∃ e, result = .failed e (o.isTransient f.code) ∧
      e.kind? = some (.remoteFault f (mark o requests.length extent f)) := by
  -- the call was refused as a whole, or the request in it; other answers are impossible
  cases hanswered with
  | one hcall =>
    obtain ⟨-, hfails⟩ := failed_of_execute h
    exact nomatch hfails.symm.trans hcall
  | oneFailed hcall =>
    obtain ⟨rfl, hfails⟩ := failed_of_execute h
    cases hfails.symm.trans hcall
    cases hresult
    exact ⟨_, rfl, rfl⟩
  | all hmany hcall hlength =>
    rcases failed_of_executeAll h with ⟨-, hfails⟩ | ⟨rfl, answers, hanswers, -, hfault⟩
    · exact nomatch hfails.symm.trans hcall
    · cases hanswers.symm.trans hcall
      rw [List.getElem?_map, hfault] at hresult
      cases hresult
      refine ⟨_, rfl, ?_⟩
      rw [mark, if_neg (by simp [hmany])]
      rfl
  | miscounted hmany hcall hlength =>
    rcases failed_of_executeAll h with ⟨-, hfails⟩ | ⟨-, answers, hanswers, hcount, -⟩
    · exact nomatch hfails.symm.trans hcall
    · cases hanswers.symm.trans hcall
      exact absurd hcount hlength
  | allFailed hmany hcall =>
    rcases failed_of_executeAll h with ⟨rfl, hfails⟩ | ⟨-, answers, hanswers, -, -⟩
    · cases hfails.symm.trans hcall
      rw [List.getElem?_map] at hresult
      obtain ⟨-, -, rfl⟩ := Option.map_eq_some_iff.1 hresult
      refine ⟨_, rfl, ?_⟩
      rw [mark, if_pos (.inr rfl)]
      rfl
    · exact nomatch hanswers.symm.trans hcall

end Submission

/-! ### Items that end by a fault -/

namespace Pipeline

variable {p : Pipeline Store} {batch : List WriteItem} {extent : Extent} {f : Fault}
  {o : ItemOutcome}

/-- A worker sends a batch of new items to the store, which refuses one of them, and the item ends
with an outcome. -/
structure Refused (p : Pipeline Store) (batch : List WriteItem) (extent : Extent) (f : Fault)
    (o : ItemOutcome) : Prop where
  attempts : ∀ i ∈ batch, i.attempts = 0
  tokens : (batch.map (·.token)).Nodup
  run : ∃ (id : Nat) (rounds : List (Round Store)) (outcomes : List ItemOutcome) (t : Run Store)
      (first : Round Store) (place : Nat) (i : WriteItem),
    p.Processing id batch rounds outcomes t ∧ rounds[0]? = some first ∧
      first.world.state.Refuses (batch.map (·.request)) place extent f ∧
      batch[place]? = some i ∧ o ∈ outcomes ∧ o.token = i.token

/-- An item of a batch that is sent once fails by what the store answers to it. -/
theorem Refused.failed (h : p.Refused batch extent f o) (hservice : p.service = Store.service)
    (hretries : p.options.retries = 0) :
    ∃ e, o.outcome = .failed e (p.options.isTransient f.code) ∧
      e.kind? = some (.remoteFault f (Submission.mark p.options batch.length extent f)) := by
  obtain ⟨id, rounds, outcomes, t, first, place, i, hrun, hfirst, hrefuses, hi, ho, htoken⟩ := h.run
  obtain ⟨w, -, hfollowed⟩ := followed_of_processing h.attempts h.tokens hrun
  have hmem : first ∈ rounds := List.mem_of_getElem? hfirst
  -- the only round carries the whole batch
  have hitems : first.items = batch.map (WriteItem.attempted 1) := by
    rw [hfollowed.items 0 first hfirst]
    simp [leftOver]
  have hrequests : first.items.map (·.request) = batch.map (·.request) := by
    rw [hitems, List.map_map]
    rfl
  -- the outcome is that of the item, by the result at its place
  obtain ⟨k, r, x, hr, hx, -, rfl, -⟩ := hfollowed.exists_round ho
  have hk : k < rounds.length := (List.getElem?_eq_some_iff.1 hr).1
  have hbound := hfollowed.bound
  obtain rfl : k = 0 := by omega
  cases hfirst.symm.trans hr
  have hat : first.items[place]? = some (i.attempted 1) := by
    rw [hitems, List.getElem?_map, hi]
    rfl
  have hplace : place < first.results.length := by
    rw [hfollowed.lengths first hmem]
    exact (List.getElem?_eq_some_iff.1 hat).1
  have hresult : first.results[place]? = some first.results[place] :=
    List.getElem?_eq_getElem hplace
  have hsame : x = (i.attempted 1, first.results[place]) := by
    refine hfollowed.result_unique h.tokens hmem hx ?_ ?_
    · exact List.mem_iff_getElem?.2 ⟨place, List.getElem?_zip_eq_some.2 ⟨hat, hresult⟩⟩
    · exact (congrArg Ticket.token (Submission.ticket_ending _ _ x.1 x.2)).symm.trans htoken
  have hanswered := hfollowed.answered first hmem
  rw [hservice, hrequests] at hanswered
  obtain ⟨e, hfailed, hkind⟩ := Submission.failed_of_answered hanswered hrefuses hresult
  rw [List.length_map] at hkind
  refine ⟨(i.attempted 1).failure p.entity.name e, ?_, ?_⟩
  · rw [hsame, hfailed]
    rfl
  · rw [WriteItem.failure, Failure.kind?_context]
    exact hkind

/-! ### Reports -/

/-- Two outcomes report a failure alike, without contradicting themselves: the cause is the same and
so is the mark, and the cause has the mark of the outcome. -/
def ReportedAlike (o o' : ItemOutcome) : Prop :=
  ∃ e e' cause, o.outcome = .failed e cause.isRetryable ∧
    o'.outcome = .failed e' cause.isRetryable ∧ e.kind? = some cause ∧ e'.kind? = some cause

/-- **Alone and together.** With a single attempt, an item that is refused when it is sent alone and
one that is refused by the same fault when it is sent with others both fail by that fault, and both
outcomes are marked by the codes of the options. The cause is marked by the usual codes for the item
that was sent alone, and for the other one by the codes of the options, unless its call was refused
as a whole. So both are reported alike if and only if the options and the usual codes agree about
the fault. -/
theorem reports_agree_iff {single : List WriteItem} {extent' : Extent} {o' : ItemOutcome}
    (hservice : p.service = Store.service) (hretries : p.options.retries = 0)
    (hsingle : single.length = 1) (halone : p.Refused single extent f o)
    (hmany : batch.length ≠ 1) (htogether : p.Refused batch extent' f o') :
    (∃ e, o.outcome = .failed e (p.options.isTransient f.code) ∧
        e.kind? = some (.remoteFault f (transientCodes.contains f.code))) ∧
      (∃ e, o'.outcome = .failed e (p.options.isTransient f.code) ∧
        e.kind? = some (.remoteFault f (if extent' = .call then transientCodes.contains f.code
          else p.options.isTransient f.code))) ∧
      (ReportedAlike o o' ↔ p.options.isTransient f.code = transientCodes.contains f.code) := by
  obtain ⟨e, ho, he⟩ := halone.failed hservice hretries
  obtain ⟨e', ho', he'⟩ := htogether.failed hservice hretries
  have hmark : Submission.mark p.options single.length extent f =
      transientCodes.contains f.code := if_pos (.inl hsingle)
  have hmark' : Submission.mark p.options batch.length extent' f =
      if extent' = .call then transientCodes.contains f.code
        else p.options.isTransient f.code := by
    simp [Submission.mark, hmany]
  rw [hmark] at he
  rw [hmark'] at he'
  refine ⟨⟨e, ho, he⟩, ⟨e', ho', he'⟩, ?_, ?_⟩
  · -- the first outcome alone says it: its cause has the usual mark
    rintro ⟨a, a', cause, ha, -, hcause, -⟩
    rw [ho, Outcome.failed.injEq] at ha
    obtain ⟨rfl, hflag⟩ := ha
    cases he.symm.trans hcause
    exact hflag
  · intro hagree
    rw [hagree, ite_self] at he'
    refine ⟨e, e', .remoteFault f (transientCodes.contains f.code), ?_, ?_, he, he'⟩
    · rw [ho, hagree]
      rfl
    · rw [ho', hagree]
      rfl

/-! ### Notes that are refused -/

/-- A pipeline for notes that sends them once, and takes the faults with some codes for such that
may go away by themselves. -/
def once (codes : List Int32) : Pipeline Store where
  service := Store.service
  entity := .ofName "note"
  options := { WriteOptions.standard with transientCodes := codes }
  gap := 0
  cancels := fun _ => false

/-- A fault with one of the usual codes. -/
def throttled : Fault :=
  ⟨-2147015902, "throttled"⟩

/-- A run at its start, into a store that refuses one request. -/
def throttledOnce (codes : List Int32) : Run Store :=
  (once codes).start
    ⟨(Store.ofEntities [.ofName "note"]).refuseRequests throttled 1, []⟩ []

/-- New notes that are sent together. -/
def notes (tokens : List Nat) : List WriteItem :=
  tokens.map fun token => ⟨token, 0, ⟨.ofList []⟩, ⟨.create, .ofEntity "note"⟩, 0⟩

/-- The first of some notes is refused, and its outcome is the first of them. -/
theorem refused_notes (codes : List Int32) (token : Nat) (tokens : List Nat)
    (htokens : (token :: tokens).Nodup) {results : List SubmitResult} {t : Run Store}
    (hcall : (once codes).submission (send (throttledOnce codes) 0 (notes (token :: tokens)))
      ((notes (token :: tokens)).map WriteItem.sent) = (.ok results, t))
    {outcomes : List ItemOutcome}
    (hended : (Submission.settle "note" (once codes).options
      ((notes (token :: tokens)).map WriteItem.sent) results).outcomes = o :: outcomes)
    (htoken : o.token = token) :
    (once codes).Refused (notes (token :: tokens)) .request throttled o where
  attempts := by simp [notes]
  tokens := by
    have hsame : (notes (token :: tokens)).map (·.token) = token :: tokens := by
      simp [notes, Function.comp_def]
    rwa [hsame]
  run := by
    have hsend : (once codes).Processing 0 (notes (token :: tokens)) [] []
        (send (throttledOnce codes) 0 (notes (token :: tokens))) :=
      .send (Run.worker_of_singleton rfl)
    have hanswer := hsend.answer (Run.worker_of_singleton rfl) hcall (outcomes_settled _ 0 _)
    refine ⟨_, _, _, _, _, 0, _, hanswer, rfl, .request rfl rfl, rfl, ?_, htoken⟩
    show o ∈ (Submission.settle "note" (once codes).options
      ((notes (token :: tokens)).map WriteItem.sent) results).outcomes
    rw [hended]
    exact List.mem_cons_self

/-- Where the options have the usual codes, a note that is refused alone and one that is refused
together with another are reported alike. -/
theorem reports_agree_iff_usual :
    ∃ o o', (notes [1]).length = 1 ∧
      (once transientCodes).Refused (notes [1]) .request throttled o ∧
      (notes [1, 2]).length ≠ 1 ∧
      (once transientCodes).Refused (notes [1, 2]) .request throttled o' ∧
      ReportedAlike o o' := by
  have halone := refused_notes transientCodes 1 [] (by decide) rfl rfl rfl
  have htogether := refused_notes transientCodes 1 [2] (by decide) rfl rfl rfl
  have hmany : (notes [1, 2]).length ≠ 1 := by decide
  obtain ⟨-, -, hiff⟩ := reports_agree_iff rfl rfl rfl halone hmany htogether
  exact ⟨_, _, rfl, halone, hmany, htogether, hiff.2 rfl⟩

/-- Where the options have no codes, both notes fail for good. The cause is marked otherwise for the
one that is refused alone. -/
theorem reports_differ_unusual :
    ∃ o o' e e', (once []).Refused (notes [1]) .request throttled o ∧
      (once []).Refused (notes [1, 2]) .request throttled o' ∧
      o.outcome = .failed e false ∧ e.kind? = some (.remoteFault throttled true) ∧
      o'.outcome = .failed e' false ∧ e'.kind? = some (.remoteFault throttled false) ∧
      ¬ReportedAlike o o' := by
  have halone := refused_notes [] 1 [] (by decide) rfl rfl rfl
  have htogether := refused_notes [] 1 [2] (by decide) rfl rfl rfl
  refine ⟨_, _, _, _, halone, htogether, rfl, rfl, rfl, rfl, ?_⟩
  rintro ⟨e, e', cause, ho, -, hcause, -⟩
  injection ho with he hmark
  subst he
  cases hcause
  exact nomatch hmark

end Pipeline

end RecordService
