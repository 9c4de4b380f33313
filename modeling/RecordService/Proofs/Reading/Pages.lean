import RecordService.Proofs.Store.Calls
import RecordService.Reading.Pages

namespace RecordService

/-!
# Reading all pages of a store

The service cuts what a query selects into pages, and the reader asks for one page after the
other. The two fit together: nothing is lost or repeated between two pages, and the reader stops
at the last one.

* `Query.outputs`: what a query puts out when it is not cut into pages.
* `Page.offset`, `Page.served`: the rows before a page, and those on it.
* `Query.evaluate_atPage`: a page is a slice of what the query puts out.
* `Query.visitPages_store`: the pages from some page on.
* `Query.readAll_store`: all pages that are read.
-/

/-- What a query puts out when it is not cut into pages. -/
def Query.outputs (q : Query) (tables : Tables) (e : Entity) : List Record :=
  (q.rows tables e).map (Row.output tables q)

namespace Page

/-- How many rows a page is served with, at least one. -/
def served (p : Page) : Nat :=
  max p.count 1

/-- How many rows come before a page. -/
def offset (p : Page) : Nat :=
  (p.number - 1) * p.served

/-- How many pages of the same size it takes for some rows. -/
def pagesFor (p : Page) (rows : Nat) : Nat :=
  (rows + p.served - 1) / p.served

/-- The page that comes so many pages later. What the service gave to find it is left out, since
a store finds its pages by their numbers. -/
def later (p : Page) (n : Nat) : Page :=
  ⟨p.count, p.number + n, none⟩

/-- A page serves at least one row. -/
theorem served_pos (p : Page) : 0 < p.served :=
  Nat.le_max_right _ _

/-- The next page starts where this one ends. -/
theorem offset_next {p : Page} (h : 1 ≤ p.number) (cookie : Option String) :
    (p.next cookie).offset = p.offset + p.served := by
  obtain ⟨n, hn⟩ := Nat.exists_eq_add_of_le h
  unfold offset
  show (p.number + 1 - 1) * p.served = (p.number - 1) * p.served + p.served
  rw [hn, Nat.add_sub_cancel, Nat.add_sub_cancel_left, Nat.add_comm 1 n, Nat.succ_mul]

/-- Pages that are numbered by 32 bits are enough for rows that make fewer pages. -/
theorem rows_le_of_pagesFor {p : Page} (hfirst : 1 ≤ p.number) (hlast : p.number < numberLimit)
    {rows : Nat} (hfew : p.pagesFor rows < numberLimit) :
    rows ≤ p.offset + p.remaining * p.served := by
  have hrows : rows + p.served - 1 < numberLimit * p.served :=
    (Nat.div_lt_iff_lt_mul p.served_pos).1 hfew
  have hall : p.offset + p.remaining * p.served = (numberLimit - 1) * p.served := by
    rw [offset, remaining, ← Nat.add_mul]
    congr 1
    omega
  have hlimit : numberLimit * p.served = (numberLimit - 1) * p.served + p.served := by
    rw [← Nat.succ_mul]
    rfl
  omega

end Page

/-- A store that has answered so many more queries. -/
def Store.afterQueries (s : Store) (n : Nat) : Store :=
  s.count fun c => { c with queries := c.queries + n }

/-- Queries that were answered are counted up. -/
theorem Store.afterQueries_add (s : Store) (m n : Nat) :
    (s.afterQueries m).afterQueries n = s.afterQueries (m + n) := by
  unfold afterQueries Store.count
  dsimp only
  rw [Nat.add_assoc]

namespace Query

/-! ### One page -/

/-- **A page** is a slice of what the query puts out, and there is more if something comes
behind it. -/
theorem evaluate_atPage (q : Query) {p : Page} (h : 1 ≤ p.number) (tables : Tables) (e : Entity) :
    ((q.atPage p).evaluate tables e).records =
        ((q.outputs tables e).drop p.offset).take p.served ∧
      ((q.atPage p).evaluate tables e).more =
        decide (p.offset + p.served < (q.outputs tables e).length) := by
  have hnumber : max p.number 1 = p.number := Nat.max_eq_left h
  constructor
  · show (((q.rows tables e).drop ((max p.number 1 - 1) * p.served)).take p.served).map
      (Row.output tables q) = _
    rw [hnumber, List.map_take, List.map_drop]
    rfl
  · show decide ((max p.number 1 - 1) * p.served + p.served < (q.rows tables e).length) = _
    rw [hnumber, outputs, List.length_map]
    rfl

/-- Pages are found by their numbers, so whether there is more does not depend on what the service
gave to find them. -/
theorem more_atPage_later (q : Query) (p : Page) (n : Nat) (cookie : Option String)
    (tables : Tables) (e : Entity) :
    ((q.atPage ((p.next cookie).later n)).evaluate tables e).more =
      ((q.atPage (p.later (n + 1))).evaluate tables e).more := by
  have hpage : (p.next cookie).later n = p.later (n + 1) := by
    show (⟨p.count, p.number + 1 + n, none⟩ : Page) = ⟨p.count, p.number + (n + 1), none⟩
    rw [Nat.add_assoc, Nat.add_comm 1 n]
  rw [hpage]

/-! ### Visits -/

variable {σ β : Type}

/-- A visit of some pages asks for the first of them, visits its records, and goes on if there
are more. -/
theorem run_visitPages_succ (service : Service σ) (f : Visitor σ β) (q : Query) (n : Nat)
    (page : Page) (b : β) (w : World σ) :
    (visitPages service f q (n + 1) page b).run w =
      match ((q.atPage page).ask service).runOn w with
      | (.error e, w) => (.failed b e, w)
      | (.ok result, w) =>
        match (f.visit result.records b).run w with
        | (.next b, w) =>
          if result.more then (visitPages service f q n (page.next result.cookie) b).run w
          else (.next b, w)
        | ended => ended := by
  rw [visitPages, StateT.run_bind]
  show Bind.bind (m := Id) (((q.atPage page).ask service).runOn w) _ = _
  generalize ((q.atPage page).ask service).runOn w = asked
  obtain ⟨r, w⟩ := asked
  cases r with
  | error e => rfl
  | ok result =>
    show StateT.run (f.visit result.records b >>= _) w = _
    rw [StateT.run_bind]
    show Bind.bind (m := Id) ((f.visit result.records b).run w) _ = _
    dsimp only
    generalize (f.visit result.records b).run w = visited
    obtain ⟨v, w⟩ := visited
    cases v with
    | next b =>
      show StateT.run (if result.more then _ else _) w = _
      dsimp only
      cases result.more with
      | true => rfl
      | false => rfl
    | stopped b => rfl
    | failed b e => rfl

/-- Take a record along. -/
def collector : Visitor σ (List Record) :=
  fun rs r => pure (.next (r :: rs))

/-- Visiting some records takes them along, the latest one first. -/
theorem run_visit_collector (records rs : List Record) (w : World σ) :
    (collector.visit records rs).run w = (.next (records.reverse ++ rs), w) := by
  induction records generalizing rs with
  | nil => rfl
  | cons r records ih =>
    show (collector.visit records (r :: rs)).run w = _
    rw [ih, List.reverse_cons, List.append_assoc]
    rfl

/-! ### All pages of a store -/

/-- A store that is asked answers with the page of its tables, and counts the query. -/
theorem runOn_ask (q : Query) (w : World Store) :
    ∃ journal, (q.ask Store.service).runOn w =
      (((w.state.entity q.entity).map (q.evaluate w.state.tables)).mapError
        fun fault => .of (.remoteFault fault false), ⟨w.state.afterQueries 1, journal⟩) :=
  Store.runOn_query ⟨w.state, debugLine ("Retrieving " ++ Text.cutLong q.toXml) :: w.journal⟩ q

/-- A store is asked for a page, its records are taken along, and if there are more the next page
is asked for. -/
theorem run_visitPages_store {q : Query} {e : Entity} {w : World Store}
    (he : w.state.entity q.entity = .ok e) {page : Page} (hnumber : 1 ≤ page.number) (n : Nat)
    (rs : List Record) :
    ∃ journal, (visitPages Store.service collector q (n + 1) page rs).run w =
      let result := (q.atPage page).evaluate w.state.tables e
      let rs := (((q.outputs w.state.tables e).drop page.offset).take page.served).reverse ++ rs
      let w : World Store := ⟨w.state.afterQueries 1, journal⟩
      if result.more then
        (visitPages Store.service collector q n (page.next result.cookie) rs).run w
      else (.next rs, w) := by
  obtain ⟨journal, hask⟩ := runOn_ask (q.atPage page) w
  rw [show (q.atPage page).entity = q.entity from rfl, he] at hask
  refine ⟨journal, ?_⟩
  rw [run_visitPages_succ, hask]
  dsimp only [Except.map, Except.mapError]
  rw [run_visit_collector, (q.evaluate_atPage hnumber w.state.tables e).1]

/-- **Pages from some page on.** What they hold is what the query puts out behind the rows before
that page. The visit asks for one page after the other, and the last one is the first that has no
more behind it. -/
theorem visitPages_store {q : Query} {e : Entity} {tables : Tables} {n : Nat} {page : Page}
    {w : World Store} (htables : w.state.tables = tables)
    (he : w.state.entity q.entity = .ok e) (hnumber : 1 ≤ page.number) (hn : 0 < n)
    (hrows : (q.outputs tables e).length ≤ page.offset + n * page.served) (rs : List Record) :
    ∃ k journal,
      (∀ i < k, ((q.atPage (page.later i)).evaluate tables e).more = true) ∧
      ((q.atPage (page.later k)).evaluate tables e).more = false ∧
      (visitPages Store.service collector q n page rs).run w =
        (.next (((q.outputs tables e).drop page.offset).reverse ++ rs),
          ⟨w.state.afterQueries (k + 1), journal⟩) := by
  induction n generalizing page w rs with
  | zero => exact absurd hn (Nat.lt_irrefl 0)
  | succ n ih =>
    obtain ⟨journal, hrun⟩ := run_visitPages_store he hnumber n rs
    have hmore := (q.evaluate_atPage hnumber tables e).2
    rw [htables] at hrun
    dsimp only at hrun
    rw [hrun]
    cases hlast : ((q.atPage page).evaluate tables e).more with
    | false =>
      -- nothing comes behind the last page
      have hend : ((q.outputs tables e).drop page.offset).length ≤ page.served := by
        rw [hlast] at hmore
        have hle := of_decide_eq_false hmore.symm
        rw [List.length_drop]
        omega
      refine ⟨0, journal, (fun i hi => absurd hi (Nat.not_lt_zero i)), hlast, ?_⟩
      rw [List.take_of_length_le hend]
      rfl
    | true =>
      have hbehind : page.offset + page.served < (q.outputs tables e).length := by
        rw [hlast] at hmore
        exact of_decide_eq_true hmore.symm
      -- the next page starts where this one ends, and it is not the last that could be asked for
      have hoffset := Page.offset_next hnumber ((q.atPage page).evaluate tables e).cookie
      rw [Nat.succ_mul] at hrows
      have hpos : 0 < n := by
        rcases Nat.eq_zero_or_pos n with rfl | hpos
        · omega
        · exact hpos
      have hrows' : (q.outputs tables e).length ≤ page.offset + page.served + n * page.served := by
        omega
      rw [← hoffset] at hrows'
      obtain ⟨k, journal', hbefore, hlast', hrest⟩ :=
        ih (w := ⟨w.state.afterQueries 1, journal⟩) htables he (Nat.le_succ_of_le hnumber) hpos
          hrows' ((((q.outputs tables e).drop page.offset).take page.served).reverse ++ rs)
      refine ⟨k + 1, journal', ?_, ?_, ?_⟩
      · intro i hi
        cases i with
        | zero => exact hlast
        | succ i => exact (more_atPage_later q page i _ _ e).symm.trans (hbefore i (by omega))
      · exact (more_atPage_later q page k _ _ e).symm.trans hlast'
      · rw [if_pos rfl, hrest, hoffset, ← List.append_assoc, ← List.reverse_append,
          ← List.drop_drop, List.take_append_drop, Store.afterQueries_add, Nat.add_comm 1]

/-- How many rows come before the first page that is read. -/
def rowsBefore (q : Query) : Nat :=
  match q.page with
  | some p => p.offset
  | none => 0

/-- A query that names no page is read from its first row on. -/
theorem offset_getD_page (q : Query) (pageSize : Nat) :
    (q.page.getD (.first pageSize)).offset = q.rowsBefore := by
  unfold rowsBefore
  cases q.page with
  | some p => rfl
  | none => exact Nat.zero_mul _

/-- Without a limit, reading visits the pages from the first one on and takes the records along. -/
theorem readAll_eq {q : Query} (htop : q.top = none) (service : Service σ) (pageSize : Nat)
    (w : World σ) :
    (q.readAll service pageSize).run w =
      ((collected ((visitPages service collector q (q.page.getD (.first pageSize)).remaining
        (q.page.getD (.first pageSize)) []).run w).1),
        ((visitPages service collector q (q.page.getD (.first pageSize)).remaining
          (q.page.getD (.first pageSize)) []).run w).2) := by
  unfold readAll visitAll
  rw [htop]
  rfl

/-- **Reading a query.** A query without a limit, whose pages can be numbered, is read from its
page on, or from the start if it has none: the records are all that it puts out from there, in
order and each once. Reading ends with the page that has no more behind it. A query of an entity
that is not declared fails. -/
theorem readAll_store {q : Query} {w : World Store} (pageSize : Nat) (htop : q.top = none)
    (hpage : ∀ p, q.page = some p → 1 ≤ p.number ∧ p.number < Page.numberLimit)
    (hfew : ∀ e, w.state.entity q.entity = .ok e →
      (q.page.getD (.first pageSize)).pagesFor (q.outputs w.state.tables e).length <
        Page.numberLimit) :
    match w.state.entity q.entity with
    | .ok e => ∃ k journal,
      (∀ i < k, ((q.atPage ((q.page.getD (.first pageSize)).later i)).evaluate
        w.state.tables e).more = true) ∧
      ((q.atPage ((q.page.getD (.first pageSize)).later k)).evaluate
        w.state.tables e).more = false ∧
      (q.readAll Store.service pageSize).run w =
        (((q.outputs w.state.tables e).drop q.rowsBefore, none),
          ⟨w.state.afterQueries (k + 1), journal⟩)
    | .error fault => ∃ journal,
      (q.readAll Store.service pageSize).run w =
        (([], some (.of (.remoteFault fault false))), ⟨w.state.afterQueries 1, journal⟩) := by
  have hfirst : 1 ≤ (q.page.getD (.first pageSize)).number ∧
      (q.page.getD (.first pageSize)).number < Page.numberLimit := by
    cases hp : q.page with
    | some p => exact hpage p hp
    | none => exact ⟨Nat.le_refl 1, (by decide : 1 < Page.numberLimit)⟩
  have hremaining : 0 < (q.page.getD (.first pageSize)).remaining := Nat.sub_pos_of_lt hfirst.2
  rw [readAll_eq htop]
  cases he : w.state.entity q.entity with
  | ok e =>
    obtain ⟨k, journal, hbefore, hlast, hvisit⟩ := visitPages_store rfl he hfirst.1 hremaining
      (Page.rows_le_of_pagesFor hfirst.1 hfirst.2 (hfew e he)) []
    refine ⟨k, journal, hbefore, hlast, ?_⟩
    rw [hvisit, offset_getD_page, List.append_nil]
    show ((List.reverse (List.reverse _), none), _) = _
    rw [List.reverse_reverse]
  -- the first page is asked for in any case, and fails
  | error fault =>
    obtain ⟨n, hn⟩ := Nat.exists_eq_add_of_lt hremaining
    obtain ⟨journal, hask⟩ := runOn_ask (q.atPage (q.page.getD (.first pageSize))) w
    refine ⟨journal, ?_⟩
    rw [show (q.atPage (q.page.getD (.first pageSize))).entity = q.entity from rfl, he] at hask
    rw [hn, Nat.zero_add, run_visitPages_succ, hask]
    rfl

/-- A note with a rank. -/
def note (id : Nat) (rank : Int32) : Record :=
  ⟨"note", some (.numbered id), .ofList [("rank", .int32 (some rank))]⟩

/-- A store with four notes. -/
def notes : Store :=
  [note 1 7, note 2 9, note 3 5, note 4 7].foldl (fun s r => (s.insert r).2)
    (.ofEntities [(Entity.ofName "note").declare (.ofType "rank" .integer)])

/-- The notes from the highest rank on, in pages of one, from the second page on. -/
def laterNotes : Query :=
  { ofEntity "note" with
    orders := [⟨"rank", .descending⟩]
    page := some ⟨0, 2, none⟩ }

/-- The notes behind the first one, of which two have the same rank. -/
theorem readAll_store_notes :
    ∃ w, (laterNotes.readAll Store.service 5000).run ⟨notes, []⟩ =
      (([note 1 7, note 4 7, note 3 5], none), w) ∧ w.state.calls.queries = 3 := by
  have h := readAll_store (q := laterNotes) (w := ⟨notes, []⟩) 5000 rfl
    (by rintro p ⟨rfl⟩; decide) (by rintro e ⟨rfl⟩; decide)
  obtain ⟨k, journal, hbefore, hlast, hrun⟩ : ∃ k journal, _ ∧ _ ∧ _ := h
  -- of the pages two to four only the last has no more behind it
  match k with
  | 0 => exact nomatch hlast
  | 1 => exact nomatch hlast
  | 2 => exact ⟨_, hrun, rfl⟩
  | k + 3 => exact nomatch hbefore 2 (by omega)

end Query

end RecordService
