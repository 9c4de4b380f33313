import RecordService.Proofs.Reading.Pages

namespace RecordService.Query

/-!
# Reading up to a limit

A query that has a limit is asked for at once and without a page, and a store answers a query
without a page by its usual page. The limit is therefore kept as far as that page goes: what is
read is the first records up to the limit, but no more of them than the page holds.

* `Query.limited`, `Query.unlimited`: a query with some limit, and without limit and page.
* `Query.outputs_limited`, `Query.evaluate_unpaged`: the two places where records are cut off.
* `Query.run_readAll_limited`: what is read of a query with a limit.
* `Query.readAll_limited`: when that is all that the limit allows.
* `Query.readAll_limited_namesakes`: a limit that is not reached.
-/

/-- The query with a limit. -/
def limited (q : Query) (limit : Nat) : Query :=
  { q with top := some limit }

/-- The query without limit and page. -/
def unlimited (q : Query) : Query :=
  { q with top := none, page := none }

/-! ### Where records are cut off -/

/-- A limit cuts off what the query puts out without it. -/
theorem outputs_limited (q : Query) (limit : Nat) (tables : Tables) (e : Entity) :
    (q.limited limit).outputs tables e = (q.unlimited.outputs tables e).take limit :=
  List.map_take

/-- A store answers a query without a page by the first page of the usual size. -/
theorem evaluate_unpaged {q : Query} (h : q.page = none) (tables : Tables) (e : Entity) :
    (q.evaluate tables e).records = (q.outputs tables e).take defaultPageSize := by
  have hpage : q.wantedPage = (defaultPageSize, 1) := by
    rw [wantedPage, h]
  show (((q.rows tables e).drop ((q.wantedPage.2 - 1) * q.wantedPage.1)).take
    q.wantedPage.1).map (Row.output tables q) = _
  rw [hpage, Nat.sub_self, Nat.zero_mul, List.drop_zero, List.map_take]
  rfl

/-! ### Reading -/

/-- A visit up to a limit asks for a page once, and visits what it holds up to the limit. -/
theorem run_visitFirst {σ β : Type} (service : Service σ) (f : Visitor σ β) (q : Query)
    (limit : Nat) (b : β) (w : World σ) :
    (visitFirst service f q limit b).run w =
      match (({ q with page := none } : Query).ask service).runOn w with
      | (.error e, w) => (.failed b e, w)
      | (.ok result, w) => (f.visit (result.records.take limit) b).run w := by
  rw [visitFirst, StateT.run_bind]
  show Bind.bind (m := Id) ((({ q with page := none } : Query).ask service).runOn w) _ = _
  generalize (({ q with page := none } : Query).ask service).runOn w = asked
  obtain ⟨r, w⟩ := asked
  cases r <;> rfl

/-- What is read of a query with a limit: one page is asked for, and what it holds is cut off at
the limit once more. -/
theorem run_readAll_limited (q : Query) (limit pageSize : Nat) (w : World Store) :
    ∃ journal, ((q.limited limit).readAll Store.service pageSize).run w =
      (match w.state.entity q.entity with
        | .ok e =>
          ((q.unlimited.outputs w.state.tables e).take (min limit defaultPageSize), none)
        | .error fault => ([], some (.of (.remoteFault fault false))),
        ⟨w.state.afterQueries 1, journal⟩) := by
  let first : Query := { q.limited limit with page := none }
  obtain ⟨journal, hask⟩ := runOn_ask first w
  refine ⟨journal, ?_⟩
  have hread : ((q.limited limit).readAll Store.service pageSize).run w =
      (collected ((visitFirst Store.service collector (q.limited limit) limit []).run w).1,
        ((visitFirst Store.service collector (q.limited limit) limit []).run w).2) := rfl
  rw [hread, run_visitFirst, show ({ q.limited limit with page := none } : Query) = first from rfl,
    hask, show first.entity = q.entity from rfl]
  cases w.state.entity q.entity with
  | error fault => rfl
  | ok e =>
    have hrecords : ((first.evaluate w.state.tables e).records.take limit) =
        (q.unlimited.outputs w.state.tables e).take (min limit defaultPageSize) := by
      have hfirst : first.outputs w.state.tables e =
          (q.unlimited.outputs w.state.tables e).take limit := q.outputs_limited limit _ _
      rw [evaluate_unpaged rfl, hfirst, List.take_take, List.take_take]
      congr 1
      omega
    dsimp only [Except.map, Except.mapError]
    rw [run_visit_collector, hrecords, List.append_nil]
    show ((List.reverse (List.reverse _), none), _) = _
    rw [List.reverse_reverse]

/-- **Reading up to a limit.** Of a query with a limit the first records are read that the query
puts out without limit and page, up to the limit and to the size of the page that a store answers
with if none is asked for. These are all that the limit allows if and only if they have room on
that page. A query of an entity that is not declared fails. -/
theorem readAll_limited (q : Query) (limit pageSize : Nat) (w : World Store) :
    match w.state.entity q.entity with
    | .ok e =>
      (∃ journal, ((q.limited limit).readAll Store.service pageSize).run w =
        (((q.unlimited.outputs w.state.tables e).take (min limit defaultPageSize), none),
          ⟨w.state.afterQueries 1, journal⟩)) ∧
      ((((q.limited limit).readAll Store.service pageSize).run w).1 =
          ((q.unlimited.outputs w.state.tables e).take limit, none) ↔
        min limit (q.unlimited.outputs w.state.tables e).length ≤ defaultPageSize)
    | .error fault => ∃ journal,
      ((q.limited limit).readAll Store.service pageSize).run w =
        (([], some (.of (.remoteFault fault false))), ⟨w.state.afterQueries 1, journal⟩) := by
  obtain ⟨journal, hrun⟩ := q.run_readAll_limited limit pageSize w
  cases he : w.state.entity q.entity with
  | error fault =>
    rw [he] at hrun
    exact ⟨journal, hrun⟩
  | ok e =>
    rw [he] at hrun
    refine ⟨⟨journal, hrun⟩, ?_⟩
    rw [hrun, Prod.mk.injEq, and_iff_left rfl, List.take_eq_take_iff]
    omega

/-! ### A limit that is not reached -/

/-- What a query without criteria, order and limit selects is what its links make. -/
theorem rows_eq_joined {q : Query} (hcriteria : q.criteria = .always) (horders : q.orders = [])
    (htop : q.top = none) (tables : Tables) (e : Entity) :
    q.rows tables e = q.joined tables e := by
  have hselected : q.selected tables e = q.joined tables e := by
    unfold selected
    rw [hcriteria]
    exact List.filter_eq_self.2 fun row _ => rfl
  rw [rows, htop, horders, hselected]
  rfl

/-- A contact with an empty name. -/
def nameless (id : Nat) : Record :=
  ⟨"contact", some (.numbered id), .ofList [("fullname", .text (some ""))]⟩

/-- Contacts have a name. -/
def contact : Entity :=
  (Entity.ofName "contact").declare (.ofType "fullname" .string)

/-- A store with eighteen contacts of the same name. -/
def crowd : Store :=
  (List.range 18).foldl (fun s i => (s.insert (nameless (i + 1))).2) (.ofEntities [contact])

/-- A link to the contacts of the same name. -/
def toNamesakes (label : String) : Link :=
  ⟨"contact", "fullname", "contact", "fullname", .inner, some label, .always, [], []⟩

/-- The contacts, each with every two that have its name. -/
def namesakes : Query :=
  { ofEntity "contact" with links := [toNamesakes "second", toNamesakes "third"] }

/-- The store of the crowd declares contacts. -/
theorem entity_crowd : crowd.tables.catalog.entity? "contact" = some contact := by
  decide +kernel

/-- The crowd are eighteen contacts. -/
theorem records_crowd :
    crowd.tables.records "contact" = (List.range 18).map fun i => nameless (i + 1) := by
  decide +kernel

/-- The name of a contact of the crowd is empty. -/
theorem valueOf_nameless (id : Nat) :
    (nameless id).valueOf (crowd.tables.catalog.entity? "contact") "fullname" =
      .text (some "") := by
  have hother : ¬Text.eqIgnoreCase (Entity.defaultPrimaryId "contact") "fullname" = true := by
    decide +kernel
  rw [entity_crowd, Record.valueOf]
  exact if_neg hother

/-- The namesakes of a contact are all contacts. -/
theorem extend_toNamesakes (label : String) {rows : List Row}
    (hroots : ∀ row ∈ rows, ∃ id, row.root = nameless id) :
    (toNamesakes label).extend crowd.tables none rows =
      rows.flatMap fun row =>
        (crowd.tables.records "contact").map fun r => row.join label (some r) := by
  have hfound : ∀ row ∈ rows, Link.candidates crowd.tables "contact" "fullname"
      (Link.key crowd.tables none "fullname" row) = crowd.tables.records "contact" := by
    intro row hrow
    obtain ⟨id, hid⟩ := hroots row hrow
    have hkey : Link.key crowd.tables none "fullname" row = .text (some "") := by
      unfold Link.key Link.source?
      rw [hid]
      exact valueOf_nameless id
    unfold Link.candidates
    rw [List.filter_eq_self, hkey, records_crowd]
    intro r hr
    obtain ⟨i, -, rfl⟩ := List.mem_map.1 hr
    rw [valueOf_nameless]
    rfl
  have hscope : ∀ row r, (Link.scope crowd.tables label row r).holds .always = true :=
    fun _ _ => rfl
  have hinner : ∀ extended alone, Link.orAlone .inner extended alone = extended := by
    intro extended alone
    unfold Link.orAlone
    exact if_neg (by simp)
  unfold toNamesakes Link.extend
  refine congrArg List.flatten (List.map_congr_left fun row hrow => ?_)
  dsimp only [Option.getD_some]
  rw [hfound row hrow, List.filter_eq_self.2 fun r _ => hscope row r, hinner]
  simp only [Link.extendAll]
  exact List.map_eq_flatMap.symm

/-- A link makes eighteen rows of each. -/
theorem length_extend_toNamesakes (label : String) {rows : List Row}
    (hroots : ∀ row ∈ rows, ∃ id, row.root = nameless id) :
    ((toNamesakes label).extend crowd.tables none rows).length = rows.length * 18 ∧
      ∀ row ∈ (toNamesakes label).extend crowd.tables none rows,
        ∃ id, row.root = nameless id := by
  rw [extend_toNamesakes label hroots]
  constructor
  · rw [List.length_flatMap]
    simp only [List.length_map, records_crowd, List.length_range, List.map_const',
      List.sum_replicate_nat]
  · intro row hrow
    obtain ⟨row', hrow', hin⟩ := List.mem_flatMap.1 hrow
    obtain ⟨r, -, rfl⟩ := List.mem_map.1 hin
    exact hroots row' hrow'

/-- Eighteen contacts, each with every two of them, make 5832 rows. -/
theorem length_outputs_namesakes :
    (namesakes.unlimited.outputs crowd.tables contact).length = 5832 := by
  have hstart : ∀ row ∈ (crowd.tables.records "contact").map Row.ofRecord,
      ∃ id, row.root = nameless id := by
    intro row hrow
    obtain ⟨r, hr, rfl⟩ := List.mem_map.1 hrow
    rw [records_crowd] at hr
    obtain ⟨i, -, rfl⟩ := List.mem_map.1 hr
    exact ⟨i + 1, rfl⟩
  have hrows : namesakes.unlimited.rows crowd.tables contact =
      (toNamesakes "third").extend crowd.tables none
        ((toNamesakes "second").extend crowd.tables none
          ((crowd.tables.records "contact").map Row.ofRecord)) :=
    rows_eq_joined rfl rfl rfl crowd.tables contact
  obtain ⟨hsecond, hroots⟩ := length_extend_toNamesakes "second" hstart
  have hthird := (length_extend_toNamesakes "third" hroots).1
  have hall : (crowd.tables.records "contact").length = 18 := by
    rw [records_crowd, List.length_map, List.length_range]
  rw [hsecond, List.length_map, hall] at hthird
  rw [outputs, List.length_map, hrows, hthird]

/-- Eighteen contacts of one name make 5832 rows. Up to a limit of as many, 5000 of them are
read. -/
theorem readAll_limited_namesakes :
    crowd.entity namesakes.entity = .ok contact ∧
      (namesakes.unlimited.outputs crowd.tables contact).length = 5832 ∧
      (((namesakes.limited 5832).readAll Store.service 5000).run ⟨crowd, []⟩).1.1.length = 5000 ∧
      (((namesakes.limited 5832).readAll Store.service 5000).run ⟨crowd, []⟩).1.1 ≠
        (namesakes.unlimited.outputs crowd.tables contact).take 5832 := by
  have he : crowd.entity namesakes.entity = .ok contact := by
    rw [Store.entity, show namesakes.entity = "contact" from rfl, entity_crowd]
  obtain ⟨journal, hrun⟩ := namesakes.run_readAll_limited 5832 5000 ⟨crowd, []⟩
  have hread : (((namesakes.limited 5832).readAll Store.service 5000).run ⟨crowd, []⟩).1.1.length =
      5000 := by
    rw [hrun]
    dsimp only
    rw [he]
    dsimp only
    rw [List.length_take, length_outputs_namesakes]
    decide
  refine ⟨he, length_outputs_namesakes, hread, fun hall => ?_⟩
  rw [hall, List.length_take, length_outputs_namesakes] at hread
  exact absurd hread (by decide)

end RecordService.Query
