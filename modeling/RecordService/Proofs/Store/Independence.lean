import RecordService.Proofs.Store.Places

namespace RecordService.Store

/-!
# Requests about different places

* `Calm.results_receiveAll`: each of them is answered as if it came alone.
* `Calm.executeAll_perm`: they may come in any order.
-/

/-- Of requests about different places, no two are about the same one. -/
theorem length_filter_place {requests : List WriteRequest}
    (hplaces : (requests.map WriteRequest.place).Nodup) (place : Place) :
    (requests.filter (·.place = place)).length ≤ 1 := by
  rw [← List.countP_eq_length_filter]
  have hcount := List.nodup_iff_count_le_one.1 hplaces place
  rw [List.count, List.countP_map] at hcount
  have hsame : ((· == place) ∘ WriteRequest.place) =
      fun request => decide (request.place = place) := rfl
  rwa [hsame] at hcount

/-- Of requests about different places, those about one place come in one order only. -/
theorem filter_place_of_perm {requests permuted : List WriteRequest}
    (hplaces : (requests.map WriteRequest.place).Nodup) (hperm : permuted.Perm requests)
    (place : Place) :
    permuted.filter (·.place = place) = requests.filter (·.place = place) := by
  have hfilter := hperm.filter (·.place = place)
  have hlength := length_filter_place hplaces place
  match hrequests : requests.filter (·.place = place) with
  | [] =>
    rw [hrequests] at hfilter ⊢
    exact hfilter.eq_nil
  | [request] =>
    rw [hrequests] at hfilter ⊢
    exact List.perm_singleton.1 hfilter
  | a :: b :: rest =>
    rw [hrequests] at hlength
    simp at hlength

/-- Requests about different places are answered as if each of them came alone. -/
theorem Calm.results_receiveAll {s : Store} (h : s.Calm) {requests : List WriteRequest}
    (hids : ∀ request ∈ requests, request.record.id.isSome)
    (hplaces : (requests.map WriteRequest.place).Nodup) :
    (s.receiveAll requests).1 = requests.map fun request => (s.receive request).1 := by
  induction requests generalizing s with
  | nil => rfl
  | cons request requests ih =>
    rw [List.forall_mem_cons] at hids
    rw [List.map_cons, List.nodup_cons] at hplaces
    rw [receiveAll_cons, ih (h.receive request) hids.2 hplaces.2]
    refine congrArg ((s.receive request).1 :: ·) (List.map_congr_left ?_)
    intro other hother
    have hne : request.place ≠ other.place := by
      intro heq
      exact hplaces.1 (heq ▸ List.mem_map_of_mem hother)
    -- the first request has left the place of the other one as it was
    have hagree : AgreeAt other.place (s.receive request).2 s :=
      AgreeAt.receive_of_ne ⟨rfl, rfl⟩ h hids.1 hne
    exact hagree.answer (h.receive request) h (hids.2 other hother)

/-- **Order.** Requests about different places may come in any order: each of them is answered
alike, and afterwards every entity has the same records, under the same identities. -/
theorem Calm.executeAll_perm {w : World Store} (h : w.state.Calm)
    {requests permuted : List WriteRequest}
    (hids : ∀ request ∈ requests, request.record.id.isSome)
    (hplaces : (requests.map WriteRequest.place).Nodup) (hperm : permuted.Perm requests) :
    ∃ (answer : WriteRequest → Except Fault WriteResponse) (u v : World Store),
      (executeAll requests).runOn w = (.ok (requests.map answer), u) ∧
        (executeAll permuted).runOn w = (.ok (permuted.map answer), v) ∧
        (∀ entity id, v.state.tables.find? entity id = u.state.tables.find? entity id) ∧
        ∀ entity, (v.state.tables.records entity).Perm (u.state.tables.records entity) := by
  have hids' : ∀ request ∈ permuted, request.record.id.isSome :=
    fun request hrequest => hids request (hperm.mem_iff.1 hrequest)
  have hplaces' : (permuted.map WriteRequest.place).Nodup :=
    (hperm.map _).nodup_iff.2 hplaces
  obtain ⟨journal, hrun⟩ := h.runOn_executeAll requests
  obtain ⟨journal', hrun'⟩ := h.runOn_executeAll permuted
  have hat : ∀ place, (w.state.receiveAll permuted).2.tables.at? place =
      (w.state.receiveAll requests).2.tables.at? place := by
    intro place
    rw [h.at?_receiveAll hids', h.at?_receiveAll hids, filter_place_of_perm hplaces hperm]
  rw [h.results_receiveAll hids hplaces] at hrun
  rw [h.results_receiveAll hids' hplaces'] at hrun'
  refine ⟨_, _, _, hrun, hrun', ?_, ?_⟩
  · intro entity id
    exact hat ⟨Text.lower entity, some id⟩
  · exact Tables.records_perm hat

/-- A store for notes and letters, with one note. -/
def desk : Store :=
  ((ofEntities [(Entity.ofName "note").declare (.ofType "rank" .integer), .ofName "letter"]).insert
    ⟨"note", some (.numbered 1), .empty⟩).2

/-- A note is ranked, a letter and a note are added, and a letter that does not exist is changed. -/
def deskRequests : List WriteRequest :=
  [⟨.update, ⟨"note", some (.numbered 1), .ofList [("RANK", .int32 (some 3))]⟩⟩,
    ⟨.create, ⟨"Letter", some (.numbered 1), .empty⟩⟩,
    ⟨.upsert, ⟨"NOTE", some (.numbered 2), .empty⟩⟩,
    ⟨.update, ⟨"letter", some (.numbered 2), .empty⟩⟩]

/-- The requests may come from the last one to the first one. -/
theorem Calm.executeAll_perm_desk :
    ∃ (answer : WriteRequest → Except Fault WriteResponse) (u v : World Store),
      (executeAll deskRequests).runOn ⟨desk, []⟩ = (.ok (deskRequests.map answer), u) ∧
        (executeAll deskRequests.reverse).runOn ⟨desk, []⟩ =
          (.ok (deskRequests.reverse.map answer), v) ∧
        (deskRequests.map answer).map (·.toOption) =
          [some ⟨.numbered 1, false⟩, some ⟨.numbered 1, true⟩, some ⟨.numbered 2, true⟩, none] ∧
        (v.state.tables.find? "note" (.numbered 1)).map (·.attributes.entries) =
          some [("rank", .int32 (some 3))] ∧
        (v.state.tables.records "note").Perm (u.state.tables.records "note") ∧
        (v.state.tables.records "letter").Perm (u.state.tables.records "letter") := by
  obtain ⟨answer, u, v, hrun, hrun', hfind, hperm⟩ :=
    executeAll_perm (w := ⟨desk, []⟩) ⟨rfl, rfl⟩ (by decide) (by decide)
      (List.reverse_perm deskRequests)
  have hresults := congrArg Prod.fst hrun
  have hworld : ((executeAll deskRequests).runOn ⟨desk, []⟩).2 = u := congrArg Prod.snd hrun
  refine ⟨answer, u, v, hrun, hrun', ?_, ?_, hperm "note", hperm "letter"⟩
  · rw [← Except.ok.inj hresults]
    rfl
  · rw [hfind, ← hworld]
    rfl

end RecordService.Store
