import RecordService.Proofs.Store.Submission

namespace RecordService

/-!
# What a store carries out

Of the items whose requests are sent to a store, some are carried out. An application is such an
item with the store before and after it; it carries the proof that the store has written it.

* `Application`: a request that was carried out, and for which item.
* `Application.put`: an application puts one record under the identity that it answers.
* `Store.applied`: the applications of the items of a call.
* `Replays`, `Replays.keeps`: applications that lead from some tables to others.
* `Submission.answers_settle`: the items of a call that succeed are those that were applied.
-/

/-- A request that a store carried out for an item. -/
structure Application where
  /-- The token of the item. -/
  token : Nat
  request : WriteRequest
  response : WriteResponse
  before : Store
  after : Store
  carried : before.write request = .ok (response, after)

/-- The token of an item that was carried out, with the answer. -/
def Application.answer (a : Application) : Nat × WriteResponse :=
  (a.token, a.response)

/-- **One record.** An application puts one record into the table of a declared entity, under the
identity that it answers, and changes nothing else in the tables. -/
theorem Application.put (a : Application) :
    ∃ e r, a.before.entity a.request.record.entity = .ok e ∧ r.id = some a.response.id ∧
      a.after.tables = a.before.tables.put e.name r := by
  obtain ⟨e, he, -, -, -, hafter⟩ := Store.write_eq_ok.1 a.carried
  exact ⟨e, _, he, Store.id_revised _ _ _ _, congrArg Store.tables hafter⟩

/-! ### Applications of a call -/

namespace Store

/-- The application of an item that arrives, if its request is carried out. -/
def application? (s : Store) (i : WriteItem) : Option Application :=
  match s.requestFault with
  | some _ => none
  | none =>
    match h : s.write i.request with
    | .ok (response, after) => some ⟨i.token, i.request, response, s, after, h⟩
    | .error _ => none

/-- The applications of items that arrive one after the other. -/
def applications (s : Store) : List WriteItem → List Application
  | [] => []
  | i :: items => (s.application? i).toList ++ (s.receive i.request).2.applications items

/-- The applications of the items of a call, of which there are none if the call is refused. -/
def applied (s : Store) (items : List WriteItem) : List Application :=
  match s.callFault with
  | some _ => []
  | none => s.applications items

/-- An item is applied if its request is carried out, and only then. -/
theorem application?_cases (s : Store) (i : WriteItem) :
    (∃ a, s.application? i = some a ∧ a.token = i.token ∧ a.request = i.request ∧
        a.before = s ∧ s.receive i.request = (.ok a.response, a.after)) ∨
      s.application? i = none ∧ ∃ fault, (s.receive i.request).1 = .error fault ∧
        (s.receive i.request).2.tables = s.tables := by
  unfold application?
  split
  · rename_i p hfault
    refine .inr ⟨rfl, p.fault, ?_⟩
    rw [receive, hfault]
    exact ⟨rfl, rfl⟩
  · rename_i hfault
    split
    · rename_i response after hwrite
      have hreceive : s.receive i.request = (.ok response, after) := by
        rw [receive, hfault, hwrite]
      exact .inl ⟨_, rfl, rfl, rfl, rfl, hreceive⟩
    · rename_i fault hwrite
      refine .inr ⟨rfl, fault, ?_⟩
      rw [receive, hfault, hwrite]
      exact ⟨rfl, rfl⟩

/-- Only items that arrive are applied. -/
theorem mem_applications {s : Store} {items : List WriteItem} {a : Application}
    (h : a ∈ s.applications items) : ∃ i ∈ items, a.token = i.token ∧ a.request = i.request := by
  induction items generalizing s with
  | nil => exact nomatch h
  | cons i items ih =>
    rcases List.mem_append.1 h with h | h
    · rcases s.application?_cases i with ⟨b, hb, htoken, hrequest, -⟩ | ⟨hnone, -⟩
      · rw [hb, Option.toList_some, List.mem_singleton] at h
        exact ⟨i, List.mem_cons_self, h ▸ htoken, h ▸ hrequest⟩
      · rw [hnone] at h
        exact nomatch h
    · obtain ⟨j, hj, hown⟩ := ih h
      exact ⟨j, List.mem_cons_of_mem _ hj, hown⟩

/-- What was applied of a batch was requested by one of its items. -/
theorem mem_applied {s : Store} {items : List WriteItem} {a : Application}
    (h : a ∈ s.applied items) : ∃ i ∈ items, a.token = i.token ∧ a.request = i.request := by
  unfold applied at h
  split at h
  · exact nomatch h
  · exact mem_applications h

end Store

/-! ### Replaying -/

/-- Applications that lead from some tables to others, one after the other, with nothing written
in between. -/
def Replays : Tables → List Application → Tables → Prop
  | ts, [], ts' => ts' = ts
  | ts, a :: log, ts' => a.before.tables = ts ∧ Replays a.after.tables log ts'

/-- Two logs, of which one goes on where the other ends, are one log. -/
theorem Replays.append {ts₁ ts₂ ts₃ : Tables} {as bs : List Application} (ha : Replays ts₁ as ts₂)
    (hb : Replays ts₂ bs ts₃) : Replays ts₁ (as ++ bs) ts₃ := by
  induction as generalizing ts₁ with
  | nil => exact ha ▸ hb
  | cons a as ih => exact ⟨ha.1, ih ha.2⟩

/-- What every application keeps is kept by all of them. -/
theorem Replays.keeps {ts ts' : Tables} {log : List Application} (h : Replays ts log ts')
    {P : Tables → Prop} (hstep : ∀ a ∈ log, P a.before.tables → P a.after.tables) (hts : P ts) :
    P ts' := by
  induction log generalizing ts with
  | nil =>
    cases h
    exact hts
  | cons a log ih =>
    obtain ⟨rfl, h⟩ := h
    rw [List.forall_mem_cons] at hstep
    exact ih h hstep.2 (hstep.1 hts)

namespace Store

/-- The tables after some items have arrived come of their applications. -/
theorem replays_applications (s : Store) (items : List WriteItem) :
    Replays s.tables (s.applications items)
      (s.receiveAll (items.map (·.request))).2.tables := by
  induction items generalizing s with
  | nil => rfl
  | cons i items ih =>
    rw [applications, List.map_cons, receiveAll_cons]
    have hrest := ih (s.receive i.request).2
    rcases s.application?_cases i with ⟨a, ha, -, -, hbefore, hreceive⟩ | ⟨hnone, fault, -, hsame⟩
    · rw [ha]
      rw [hreceive] at hrest ⊢
      exact ⟨congrArg tables hbefore, hrest⟩
    · rw [hnone]
      rw [hsame] at hrest
      exact hrest

end Store

/-! ### Items that succeed -/

/-- The token and the answer of an item that succeeded. -/
def ItemOutcome.answer? (o : ItemOutcome) : Option (Nat × WriteResponse) :=
  match o.outcome with
  | .succeeded id created _ => some (o.token, ⟨id, created⟩)
  | .failed _ _ => none

@[simp] theorem ItemOutcome.answer?_failed (i : WriteItem) (entity : String) (e : Failure)
    (retryable : Bool) : (i.failed entity e retryable).answer? = none := rfl

namespace Submission

/-- An item that fails answers nothing, whether it is sent again or not. -/
theorem answers_settleOne_failed (entity : String) (o : WriteOptions) (i : WriteItem)
    (e : Failure) (retryable : Bool) :
    (settleOne entity o i (.failed e retryable)).outcomes.filterMap ItemOutcome.answer? = [] := by
  unfold settleOne
  dsimp only
  split
  · rfl
  · rfl

/-- The answers of a batch are those of its items, one after the other. -/
theorem answers_settle_cons (entity : String) (o : WriteOptions) (i : WriteItem)
    (items : List WriteItem) (r : SubmitResult) (results : List SubmitResult) :
    (settle entity o (i :: items) (r :: results)).outcomes.filterMap ItemOutcome.answer? =
      (settleOne entity o i r).outcomes.filterMap ItemOutcome.answer? ++
        (settle entity o items results).outcomes.filterMap ItemOutcome.answer? := by
  rw [settle, Settlement.append, List.filterMap_append]

/-- The items of a call that is refused answer nothing. -/
theorem answers_settle_refused (entity : String) (o : WriteOptions) (e : Failure)
    (retryable : Bool) (items : List WriteItem) :
    (settle entity o items (items.map fun _ => .failed e retryable)).outcomes.filterMap
      ItemOutcome.answer? = [] := by
  induction items with
  | nil => rfl
  | cons i items ih => rw [List.map_cons, answers_settle_cons, answers_settleOne_failed, ih]; rfl

/-- Items that arrive answer what they were told. -/
theorem answers_settle_told (entity : String) (o : WriteOptions) {s : Store}
    {items : List WriteItem} {results : List SubmitResult}
    (h : List.Forall₂ (Told o) (s.receiveAll (items.map (·.request))).1 results) :
    (settle entity o items results).outcomes.filterMap ItemOutcome.answer? =
      (s.applications items).map Application.answer := by
  induction items generalizing s results with
  | nil => cases h; rfl
  | cons i items ih =>
    rw [List.map_cons, Store.receiveAll_cons] at h
    obtain ⟨r, results, htold, hrest, rfl⟩ := List.forall₂_cons_left_iff.1 h
    rw [answers_settle_cons, ih hrest, Store.applications, List.map_append]
    congr 1
    rcases s.application?_cases i with ⟨a, ha, htoken, -, -, hreceive⟩ | ⟨hnone, fault, hfault, -⟩
    · rw [hreceive] at htold
      cases htold
      rw [ha]
      show [(i.token, a.response)] = [a.answer]
      rw [← htoken]
      rfl
    · rw [hfault] at htold
      cases htold
      rw [hnone]
      exact answers_settleOne_failed _ _ _ _ _

/-- **Attribution.** The items of a call that succeed are those that the store has applied in it,
with the same answers and in the same order. -/
theorem answers_settle (entity : String) {o : WriteOptions} {s s' : Store}
    {items : List WriteItem} {results : List SubmitResult}
    (h : Submitted o s (items.map (·.request)) results s') :
    (settle entity o items results).outcomes.filterMap ItemOutcome.answer? =
      (s.applied items).map Application.answer := by
  unfold Store.applied
  cases h with
  | due f hfault =>
    rw [hfault, List.map_map]
    exact answers_settle_refused _ _ _ _ _
  | done f hfault htold =>
    rw [hfault]
    exact answers_settle_told _ _ htold

/-- What a call writes is what is applied in it. -/
theorem replays_applied {o : WriteOptions} {s s' : Store} {items : List WriteItem}
    {results : List SubmitResult} (h : Submitted o s (items.map (·.request)) results s') :
    Replays s.tables (s.applied items) s'.tables := by
  unfold Store.applied
  cases h with
  | due f hfault =>
    rw [hfault]
    rfl
  | done f hfault htold =>
    rw [hfault]
    exact s.replays_applications items

end Submission

end RecordService
