import RecordService.Proofs.Reading.Pages

namespace RecordService

/-!
# Counting what a query selects

A query is counted without columns, order, limit and page. None of them adds or removes a row: the
columns of links are not looked at when rows are joined, sorting only changes the order, and the
pages hold every row once.

* `Link.extend_withoutColumns`: the rows of links without columns.
* `Row.sort_perm`: sorted rows are the rows in another order.
* `Query.runOn_count`: what counting answers.
* `Query.count_store`: counting agrees with reading.
-/

/-! ### Links without columns -/

namespace Link

mutual

/-- The rows that a link makes do not depend on its columns, nor on those of its links. -/
theorem extend_withoutColumns (tables : Tables) (parent : Option String) :
    ∀ (l : Link) (rows : List Row),
      l.withoutColumns.extend tables parent rows = l.extend tables parent rows
  | ⟨_, _, toEntity, _, _, label, _, links, _⟩, rows => by
    have hlinks : extendAll tables (some (label.getD toEntity)) (allWithoutColumns links) =
        extendAll tables (some (label.getD toEntity)) links := by
      funext rows
      exact extendAll_allWithoutColumns tables _ links rows
    simp only [withoutColumns, extend, hlinks]

/-- Columns have no part in the rows that links make. -/
theorem extendAll_allWithoutColumns (tables : Tables) (parent : Option String) :
    ∀ (ls : List Link) (rows : List Row),
      extendAll tables parent (allWithoutColumns ls) rows = extendAll tables parent ls rows
  | [], rows => rfl
  | l :: ls, rows => by
    rw [allWithoutColumns, extendAll, extendAll, extend_withoutColumns tables parent l,
      extendAll_allWithoutColumns tables parent ls]

end

end Link

/-! ### Sorting -/

namespace Row

variable (tables : Tables) (keys : List SortKey)

/-- Inserting a row adds that row, and drops none. -/
theorem insertSorted_perm (row : Row) (sorted : List Row) :
    (insertSorted tables keys row sorted).Perm (row :: sorted) := by
  induction sorted with
  | nil => exact List.Perm.refl _
  | cons last rest ih =>
    unfold insertSorted
    by_cases h : (SortKey.compareRows tables keys row last == .lt) = true
    · rw [if_pos h]
      exact (ih.cons last).trans (List.Perm.swap row last rest)
    · rw [if_neg h]

/-- Sorting drops no row and adds none. -/
theorem sortOnto_perm (sorted rows : List Row) :
    (sortOnto tables keys sorted rows).Perm (sorted ++ rows) := by
  induction rows generalizing sorted with
  | nil =>
    rw [sortOnto, List.append_nil]
  | cons row rows ih =>
    have hinsert := (insertSorted_perm tables keys row sorted).append_right rows
    have hmiddle : (row :: sorted ++ rows).Perm (sorted ++ row :: rows) := List.perm_middle.symm
    exact (ih _).trans (hinsert.trans hmiddle)

/-- Sorted rows are the rows in some order. -/
theorem sort_perm (rows : List Row) : (sort tables keys rows).Perm rows := by
  unfold sort
  by_cases h : keys.isEmpty = true
  · rw [if_pos h]
  · rw [if_neg h]
    exact (List.reverse_perm _).trans (sortOnto_perm tables keys [] rows)

end Row

/-! ### Counting -/

namespace Query

/-- A query that is counted selects the rows that it selects when it is read. -/
theorem selected_countOnly (q : Query) (tables : Tables) (e : Entity) :
    q.countOnly.selected tables e = q.selected tables e := by
  have hjoined : q.countOnly.joined tables e = q.joined tables e :=
    Link.extendAll_allWithoutColumns tables none q.links _
  unfold selected
  rw [hjoined]
  rfl

/-- Without a limit, a query puts out as many records as it selects rows. -/
theorem length_outputs (q : Query) (htop : q.top = none) (tables : Tables) (e : Entity) :
    (q.outputs tables e).length = (q.selected tables e).length := by
  rw [outputs, List.length_map, rows, htop]
  exact (Row.sort_perm tables q.orders _).length_eq

/-- Counting answers the number of rows that are selected. -/
theorem runOn_count {q : Query} {e : Entity} {w : World Store}
    (he : w.state.entity q.entity = .ok e) :
    ∃ journal, (q.count Store.service).runOn w =
      (.ok (q.selected w.state.tables e).length, ⟨w.state.countQuery, journal⟩) := by
  obtain ⟨journal, hquery⟩ := Store.runOn_query w q.countOnly
  rw [show q.countOnly.entity = q.entity from rfl, he] at hquery
  have htotal : (q.countOnly.evaluate w.state.tables e).total =
      some (q.selected w.state.tables e).length := by
    show some (q.countOnly.selected w.state.tables e).length = _
    rw [selected_countOnly]
  refine ⟨journal, ?_⟩
  unfold count
  rw [Call.runOn_bind, show Store.service.query q.countOnly = Store.query q.countOnly from rfl,
    hquery]
  dsimp only [Except.map, Except.mapError]
  rw [htotal]
  rfl

/-- Reading without a limit and a page yields a record for every row that is selected. -/
theorem run_readAll_whole {q : Query} {e : Entity} {w : World Store} (htop : q.top = none)
    (hpage : q.page = none) (he : w.state.entity q.entity = .ok e)
    (hfew : (q.selected w.state.tables e).length < Page.numberLimit) (pageSize : Nat) :
    ∃ k journal, (q.readAll Store.service pageSize).run w =
      ((q.outputs w.state.tables e, none), ⟨w.state.afterQueries (k + 1), journal⟩) := by
  have hremaining : (Page.first pageSize).remaining = Page.numberLimit - 1 := rfl
  have hserved : 1 ≤ (Page.first pageSize).served := Page.served_pos _
  have hoffset : (Page.first pageSize).offset = 0 := Nat.zero_mul _
  -- every page is served with one row at least
  have hrows : (q.outputs w.state.tables e).length ≤
      (Page.first pageSize).offset +
        (Page.first pageSize).remaining * (Page.first pageSize).served := by
    have hmul := Nat.mul_le_mul_left (Page.numberLimit - 1) hserved
    rw [length_outputs q htop, hoffset, hremaining]
    omega
  have hnumber : 1 ≤ (Page.first pageSize).number := Nat.le_refl 1
  obtain ⟨k, journal, -, -, hvisit⟩ := visitPages_store rfl he hnumber
    (by decide : 0 < Page.numberLimit - 1) hrows []
  refine ⟨k, journal, ?_⟩
  rw [readAll_eq htop, hpage, Option.getD_none, hremaining, hvisit, hoffset, List.drop_zero,
    List.append_nil]
  show ((List.reverse (List.reverse _), none), _) = _
  rw [List.reverse_reverse]

/-- **Counting agrees with reading.** The count of a query is the number of records that are read
when its limit and its page are removed, whatever the size of the pages. -/
theorem count_store {q : Query} {e : Entity} {w : World Store}
    (he : w.state.entity q.entity = .ok e)
    (hfew : (q.selected w.state.tables e).length < 2 ^ 32) (pageSize : Nat) :
    ∃ (n : Nat) (u : World Store), (q.count Store.service).runOn w = (.ok n, u) ∧
      ∀ v : World Store, v.state.tables = w.state.tables →
        ∃ (records : List Record) (v' : World Store),
          ({ q with top := none, page := none }.readAll Store.service pageSize).run v =
            ((records, none), v') ∧ records.length = n := by
  obtain ⟨journal, hcount⟩ := runOn_count he
  refine ⟨_, _, hcount, ?_⟩
  intro v hv
  have hentity : v.state.entity q.entity = .ok e := by
    rw [Store.entity_eq_ok, hv]
    exact Store.entity_eq_ok.1 he
  obtain ⟨k, journal', hread⟩ := run_readAll_whole (q := { q with top := none, page := none })
    rfl rfl hentity (hv ▸ hfew) pageSize
  refine ⟨_, _, hread, ?_⟩
  rw [hv]
  exact length_outputs _ rfl _ _

/-- The pairs of notes with the same rank, of which one page of a few is wanted. -/
def notePairs : Query :=
  { ofEntity "note" with
    columns := .only ["rank"]
    links := [⟨"note", "rank", "note", "rank", .inner, some "other", .always, [], ["rank"]⟩]
    orders := [⟨"other.rank", .descending⟩]
    top := some 5
    page := some ⟨2, 2, none⟩ }

/-- All pairs are counted, and all of them are read. -/
theorem count_store_pairs :
    ∃ u : World Store, (notePairs.count Store.service).runOn ⟨notes, []⟩ = (.ok 6, u) ∧
      ∃ (records : List Record) (v : World Store),
        ({ notePairs with top := none, page := none }.readAll Store.service 4).run u =
          ((records, none), v) ∧ records.length = 6 := by
  have hentity : notes.entity "note" =
      .ok ((Entity.ofName "note").declare (.ofType "rank" .integer)) := rfl
  obtain ⟨n, u, hcount, hread⟩ :=
    count_store (q := notePairs) (w := ⟨notes, []⟩) hentity (by decide) 4
  have hn : n = 6 := (Except.ok.inj (congrArg Prod.fst hcount)).symm
  have hu : ((notePairs.count Store.service).runOn ⟨notes, []⟩).2 = u := congrArg Prod.snd hcount
  subst hn
  exact ⟨u, hcount, hread u (hu ▸ rfl)⟩

end Query

end RecordService
