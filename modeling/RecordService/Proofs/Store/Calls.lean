import RecordService.Proofs.Call
import RecordService.Proofs.Store.Writing
import RecordService.Store.Service

namespace RecordService.Store

/-!
# Running the calls of a store

What the calls of a store answer, and what they do to it. A call that writes is counted, then
answered by a pending fault as a whole, or else passed on to the requests.

* `receiveAll_count`: the counts make no difference to what is written.
* `runOn_execute`, `runOn_executeAll`: calls that write.
* `runOn_query`, `runOn_retrieve`: calls that read, which change nothing but the count.
-/

/-- Counting calls touches no table. -/
@[simp] theorem tables_count (s : Store) (f : CallCounts → CallCounts) :
    (s.count f).tables = s.tables := rfl

/-! ### Counting -/

/-- Counting makes no difference to a request. -/
theorem write_count (s : Store) (f : CallCounts → CallCounts) (request : WriteRequest) :
    (s.count f).write request =
      (s.write request).map fun answer => (answer.1, answer.2.count f) := by
  obtain ⟨operation, entity, id, attributes⟩ := request
  show (s.entity entity >>= _) = Except.map _ (s.entity entity >>= _)
  cases s.entity entity with
  | error fault => rfl
  | ok e =>
    show (s.checkExistence e _ >>= _) = Except.map _ (s.checkExistence e _ >>= _)
    cases s.checkExistence e ⟨operation, entity, id, attributes⟩ with
    | error fault => rfl
    | ok u =>
      show (e.check (s.existing? e _).isNone _ >>= _) = Except.map _ (e.check _ _ >>= _)
      cases e.check (s.existing? e ⟨entity, id, attributes⟩).isNone ⟨entity, id, attributes⟩ with
      | error fault => rfl
      | ok u =>
        -- the identity comes from the request, or from a number that no call is counted in
        cases id with
        | none => rfl
        | some id => rfl

/-- What a store does with a request does not depend on what it has counted. -/
theorem receive_count (s : Store) (f : CallCounts → CallCounts) (request : WriteRequest) :
    (s.count f).receive request = ((s.receive request).1, (s.receive request).2.count f) := by
  have hfault : (s.count f).requestFault = s.requestFault := rfl
  unfold receive
  rw [hfault, write_count]
  cases s.requestFault with
  | some p => rfl
  | none =>
    cases s.write request with
    | error fault => rfl
    | ok answer => rfl

/-- Counting makes no difference to the requests that follow. -/
theorem receiveAll_count (s : Store) (f : CallCounts → CallCounts)
    (requests : List WriteRequest) :
    (s.count f).receiveAll requests =
      ((s.receiveAll requests).1, (s.receiveAll requests).2.count f) := by
  induction requests generalizing s with
  | nil => rfl
  | cons request requests ih => rw [receiveAll_cons, receive_count, ih, receiveAll_cons]

/-! ### Calls -/

/-- A batch of so many requests is counted. -/
def countBatch (s : Store) (size : Nat) : Store :=
  s.count fun c => { c with batches := c.batches + 1, requests := c.requests + size }

/-- A request that comes alone is counted. -/
def countSingle (s : Store) : Store :=
  s.count fun c => { c with singles := c.singles + 1, requests := c.requests + 1 }

/-- A query is counted. -/
def countQuery (s : Store) : Store :=
  s.count fun c => { c with queries := c.queries + 1 }

/-- A retrieval is counted. -/
def countRetrieval (s : Store) : Store :=
  s.count fun c => { c with retrievals := c.retrievals + 1 }

/-- A batch fails as a whole with a pending fault of the call; otherwise its requests are received
in order. -/
theorem runOn_executeAll (w : World Store) (requests : List WriteRequest) :
    ∃ journal, (executeAll requests).runOn w =
      match w.state.callFault with
      | some p =>
        (.error (.of p.fault.toCause),
          ⟨{ w.state.countBatch requests.length with callFault := p.rest }, journal⟩)
      | none =>
        (.ok ((w.state.countBatch requests.length).receiveAll requests).1,
          ⟨((w.state.countBatch requests.length).receiveAll requests).2, journal⟩) := by
  obtain ⟨s, journal⟩ := w
  obtain ⟨tables, requestFault, callFault, calls, issued⟩ := s
  cases callFault with
  | some p => exact ⟨_, rfl⟩
  | none => exact ⟨_, rfl⟩

/-- A request that comes alone is received, and it is answered. -/
theorem runOn_receiveOne (w : World Store) (request : WriteRequest) :
    (receiveOne request).runOn w =
      (.ok (w.state.receive request).1, ⟨(w.state.receive request).2,
        (w.state.writeJournal [request]).reverse ++ w.journal⟩) := rfl

/-- A single request fails with a pending fault of the call; otherwise it is received. -/
theorem runOn_execute (w : World Store) (request : WriteRequest) :
    ∃ journal, (execute request).runOn w =
      match w.state.callFault with
      | some p =>
        (.error (.of p.fault.toCause),
          ⟨{ w.state.countSingle with callFault := p.rest }, journal⟩)
      | none =>
        ((w.state.countSingle.receive request).1.mapError fun fault => .of fault.toCause,
          ⟨(w.state.countSingle.receive request).2, journal⟩) := by
  obtain ⟨s, journal⟩ := w
  obtain ⟨tables, requestFault, callFault, calls, issued⟩ := s
  cases callFault with
  | some p => exact ⟨_, rfl⟩
  | none =>
    have htake : takeCallFault.runOn
        ⟨countSingle ⟨tables, requestFault, none, calls, issued⟩, journal⟩ =
          (.ok none, ⟨countSingle ⟨tables, requestFault, none, calls, issued⟩, journal⟩) := rfl
    refine ⟨(writeJournal (countSingle ⟨tables, requestFault, none, calls, issued⟩)
      [request]).reverse ++ journal, ?_⟩
    unfold execute
    rw [Call.runOn_bind, Call.runOn_change]
    dsimp only
    rw [Call.runOn_bind, ← countSingle, htake]
    dsimp only
    rw [Call.runOn_bind, runOn_receiveOne]
    -- what is left of the call looks at the result only
    cases (receive _ request).1 <;> rfl

/-- The description of an entity is looked up and nothing is changed. -/
theorem runOn_metadata (w : World Store) (name : String) :
    (metadata name).runOn w =
      ((w.state.entity name).mapError fun fault => .of (.remoteFault fault false), w) := by
  have hstate : Call.state.runOn w = (.ok w.state, w) := rfl
  unfold metadata
  rw [Call.runOn_bind, hstate]
  dsimp only
  cases w.state.entity name <;> rfl

/-- A query is answered from the tables, and counted. -/
theorem runOn_query (w : World Store) (q : Query) :
    ∃ journal, (query q).runOn w =
      (((w.state.entity q.entity).map (q.evaluate w.state.tables)).mapError
        fun fault => .of (.remoteFault fault false), ⟨w.state.countQuery, journal⟩) := by
  have hentity : ∀ journal, (metadata q.entity).runOn ⟨w.state.countQuery, journal⟩ =
      ((w.state.entity q.entity).mapError fun fault => .of (.remoteFault fault false),
        ⟨w.state.countQuery, journal⟩) := fun journal => runOn_metadata _ _
  have hquery : (query q).runOn w =
      (metadata q.entity >>= fun e => do
        let tables := (← Call.state).tables
        Call.notes (q.evaluationJournal tables e)
        return q.evaluate tables e).runOn ⟨w.state.countQuery, w.journal⟩ := rfl
  rw [hquery, Call.runOn_bind, hentity]
  cases w.state.entity q.entity with
  | error fault => exact ⟨_, rfl⟩
  | ok e => exact ⟨_, rfl⟩

/-- A record is looked up by its identity, in the table of the entity that has the name. -/
theorem runOn_retrieve (w : World Store) (name : String) (id : Uuid) (columns : ColumnSet) :
    (retrieve name id columns).runOn w =
      (((w.state.entity name).map fun e =>
          (w.state.tables.find? e.name id).map (·.project (some e) columns)).mapError
        fun fault => .of (.remoteFault fault false), ⟨w.state.countRetrieval, w.journal⟩) := by
  have hentity : (metadata name).runOn ⟨w.state.countRetrieval, w.journal⟩ =
      ((w.state.entity name).mapError fun fault => .of (.remoteFault fault false),
        ⟨w.state.countRetrieval, w.journal⟩) := runOn_metadata _ _
  unfold retrieve
  rw [Call.runOn_bind, Call.runOn_change]
  dsimp only
  rw [Call.runOn_bind, ← countRetrieval, hentity]
  cases w.state.entity name <;> rfl

end RecordService.Store
