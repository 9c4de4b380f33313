import RecordService.Matching
import RecordService.Proofs.Answer
import RecordService.Proofs.Call
import RecordService.Proofs.Reading.Limit
import RecordService.Proofs.Store.Frame
import RecordService.Proofs.Value.Order

namespace RecordService

/-!
# Matching inputs with a store

An input is matched by a query with a condition for each of its attributes, and the answer is read
page by page: the first page is asked for without a number, and the later ones by number from where
the usual page ends. What is found are the records that agree with the input, whatever the number of
pages.

* `Input.wanted`: what an input wants of the attributes that it has.
* `Input.agreeing`: the records of a store that have it.
* `Query.runOn_laterPages`, `Input.runOn_allMatches`: all pages of a query without a page.
* `Input.outputs_matchQuery`: what the query for an input puts out.
* `Input.matchesOn_store`: what an input matches.
-/

/-! ### Reading without a page -/

namespace Query

/-- There is more behind the page that answers a query without a page if it does not hold all. -/
theorem more_unpaged {q : Query} (h : q.page = none) (tables : Tables) (e : Entity) :
    (q.evaluate tables e).more = decide (defaultPageSize < (q.outputs tables e).length) := by
  have hpage : q.wantedPage = (defaultPageSize, 1) := by
    rw [wantedPage, h]
  show decide ((q.wantedPage.2 - 1) * q.wantedPage.1 + q.wantedPage.1 <
    (q.rows tables e).length) = _
  rw [hpage, Nat.sub_self, Nat.zero_mul, Nat.zero_add, outputs, List.length_map]

/-- **Later pages.** Behind a page come the rows that a query puts out from its end on, as long as
the pages can be numbered. -/
theorem runOn_laterPages {q : Query} {e : Entity} {tables : Tables} (n : Nat) {page : Page}
    {result : QueryResult} {w : World Store} (htables : w.state.tables = tables)
    (he : w.state.entity q.entity = .ok e) (hnumber : 1 ≤ page.number)
    (hmore : result.more = decide (page.offset + page.served < (q.outputs tables e).length)) :
    ∃ k journal, (q.laterPages Store.service n page result).runOn w =
      (if 0 < n ∧ (q.outputs tables e).length ≤ page.offset + n * page.served then
          .ok ((q.outputs tables e).drop (page.offset + page.served))
        else .error .breach,
        ⟨w.state.afterQueries k, journal⟩) := by
  induction n generalizing page result w with
  | zero => exact ⟨0, w.journal, rfl⟩
  | succ n ih =>
    have hpages : page.offset + (n + 1) * page.served =
        page.offset + page.served + n * page.served := by
      rw [Nat.succ_mul, Nat.add_assoc, Nat.add_comm (n * page.served)]
    by_cases hlast : page.offset + page.served < (q.outputs tables e).length
    · rw [decide_eq_true hlast] at hmore
      have hnext : 1 ≤ (page.next result.cookie).number := Nat.le_succ_of_le hnumber
      have hoffset := Page.offset_next hnumber result.cookie
      obtain ⟨hrecords, hmore'⟩ := q.evaluate_atPage hnext tables e
      obtain ⟨journal, hquery⟩ := Store.runOn_query w (q.atPage (page.next result.cookie))
      rw [show (q.atPage (page.next result.cookie)).entity = q.entity from rfl, he,
        htables] at hquery
      obtain ⟨k, journal', hrest⟩ :=
        ih (w := ⟨w.state.countQuery, journal⟩) htables he hnext hmore'
      refine ⟨1 + k, journal', ?_⟩
      rw [laterPages, if_pos hmore]
      show Call.runOn w (Store.query (q.atPage (page.next result.cookie)) >>= _) = _
      rw [Call.runOn_bind, hquery]
      dsimp only [Except.map, Except.mapError]
      rw [Call.runOn_bind, hrest, hoffset, hrecords, hoffset, ← Store.afterQueries_add]
      -- the next page and the rest behind it are what comes behind this page
      have hserved : (page.next result.cookie).served = page.served := rfl
      have hsplit : ∀ start, ((q.outputs tables e).drop start).take page.served ++
          (q.outputs tables e).drop (start + page.served) = (q.outputs tables e).drop start := by
        intro start
        rw [← List.drop_drop, List.take_append_drop]
      rw [hserved, hpages]
      by_cases henough : (q.outputs tables e).length ≤
          page.offset + page.served + n * page.served
      · have hn : 0 < n := by
          rcases Nat.eq_zero_or_pos n with rfl | hn
          · omega
          · exact hn
        rw [if_pos ⟨hn, henough⟩, if_pos ⟨Nat.succ_pos n, henough⟩]
        dsimp only
        rw [hsplit]
        rfl
      · rw [if_neg fun h => henough h.2, if_neg fun h => henough h.2]
        rfl
    · rw [decide_eq_false hlast] at hmore
      refine ⟨0, w.journal, ?_⟩
      rw [laterPages, if_neg (by simp [hmore]), if_pos ⟨Nat.succ_pos n, by omega⟩,
        List.drop_eq_nil_of_le (Nat.le_of_not_lt hlast)]
      rfl

end Query

namespace Input

variable {e : Entity} {i : Input} {names : List String}

/-- How many records the pages of the usual size hold that can be numbered. -/
def readable : Nat :=
  (Page.numberLimit - 1) * defaultPageSize

/-- All pages of a query without a page hold what the query puts out. -/
theorem runOn_allMatches {q : Query} (h : q.page = none) (w : World Store) :
    ∃ k journal, (allMatches Store.service q).runOn w =
      (match w.state.entity q.entity with
        | .error fault => .error (.of (.remoteFault fault false))
        | .ok stored =>
          if (q.outputs w.state.tables stored).length ≤ readable then
            .ok (q.outputs w.state.tables stored)
          else .error .breach,
        ⟨w.state.afterQueries k, journal⟩) := by
  obtain ⟨journal, hquery⟩ := Store.runOn_query w q
  unfold allMatches
  rw [Call.runOn_bind, show Store.service.query q = Store.query q from rfl, hquery]
  cases he : w.state.entity q.entity with
  | error fault => exact ⟨1, journal, rfl⟩
  | ok stored =>
    have hoffset : (Page.first defaultPageSize).offset = 0 := Nat.zero_mul _
    have hserved : (Page.first defaultPageSize).served = defaultPageSize := rfl
    have hmore : (q.evaluate w.state.tables stored).more =
        decide ((Page.first defaultPageSize).offset + (Page.first defaultPageSize).served <
          (q.outputs w.state.tables stored).length) := by
      rw [Query.more_unpaged h, hoffset, hserved, Nat.zero_add]
    have htables : w.state.countQuery.tables = w.state.tables := rfl
    obtain ⟨k, journal', hlater⟩ := Query.runOn_laterPages
      (Page.first defaultPageSize).remaining (w := ⟨w.state.countQuery, journal⟩) htables he
      (Nat.le_refl 1) hmore
    refine ⟨1 + k, journal', ?_⟩
    dsimp only [Except.map, Except.mapError]
    rw [Call.runOn_bind, Query.afterFirst, hlater, hoffset, hserved, Nat.zero_add, Nat.zero_add,
      Query.evaluate_unpaged h, ← Store.afterQueries_add]
    have hremaining : 0 < (Page.first defaultPageSize).remaining := by decide
    -- only the records beyond all pages that can be numbered make a difference
    by_cases henough : (q.outputs w.state.tables stored).length ≤ readable
    · rw [if_pos ⟨hremaining, henough⟩, if_pos henough]
      dsimp only
      rw [List.take_append_drop]
      rfl
    · rw [if_neg fun h => henough h.2, if_neg henough]
      rfl

/-! ### What is wanted -/

/-- What an input wants of some attributes: the values that they make of its own, as far as it has
any. -/
def wanted (e : Entity) (i : Input) (names : List String) : List (Attribute × Value) :=
  names.filterMap fun name => do
    let x ← i.get? name
    let a ← e.attribute? name
    let v ← (a.coerce x).toOption
    return (a, v)

/-- Some names are those of declared attributes, which make values of what the input has. -/
def ConvertsOn (e : Entity) (i : Input) (names : List String) : Prop :=
  ∀ name ∈ names, ∃ a, e.attribute? name = some a ∧
    ∀ x, i.get? name = some x → ∃ v, a.coerce x = .ok v

/-- A name without a value asks for nothing. -/
theorem wanted_cons_of_none {name : String} (h : i.get? name = none) (names : List String) :
    i.wanted e (name :: names) = i.wanted e names := by
  simp [wanted, h]

/-- A name with a value asks for its attribute to have that value. -/
theorem wanted_cons_of_some {name : String} {x : InputValue} {a : Attribute} {v : Value}
    (hx : i.get? name = some x) (ha : e.attribute? name = some a) (hv : a.coerce x = .ok v)
    (names : List String) : i.wanted e (name :: names) = (a, v) :: i.wanted e names := by
  simp [wanted, hx, ha, hv, Except.toOption]

/-- An input that has none of the attributes wants nothing, and only such an input does. -/
theorem wanted_eq_nil (h : i.ConvertsOn e names) :
    i.wanted e names = [] ↔ ∀ name ∈ names, i.get? name = none := by
  induction names with
  | nil => simp [wanted]
  | cons name names ih =>
    obtain ⟨⟨a, ha, hvalue⟩, hrest⟩ := List.forall_mem_cons.1 h
    rw [List.forall_mem_cons]
    cases hx : i.get? name with
    | none =>
      rw [wanted_cons_of_none hx, ih hrest]
      simp
    | some x =>
      obtain ⟨v, hv⟩ := hvalue x hx
      rw [wanted_cons_of_some hx ha hv]
      simp

/-- The conditions that some attributes have the wanted values. -/
def conditions (wanted : List (Attribute × Value)) : List Condition :=
  wanted.map fun entry => entry.1.agrees entry.2

/-- An input sets a condition for every attribute that it wants something of. -/
theorem matchConditions_eq (h : i.ConvertsOn e names) :
    i.matchConditions e names = .ok (conditions (i.wanted e names)) := by
  induction names with
  | nil => rfl
  | cons name names ih =>
    obtain ⟨⟨a, ha, hvalue⟩, hrest⟩ := List.forall_mem_cons.1 h
    cases hx : i.get? name with
    | none =>
      rw [wanted_cons_of_none hx, ← ih hrest, matchConditions, hx]
    | some x =>
      obtain ⟨v, hv⟩ := hvalue x hx
      have hcondition : i.matchCondition e name x = .ok (a.agrees v) := by
        unfold matchCondition
        rw [ha]
        dsimp only
        rw [hv]
        rfl
      rw [wanted_cons_of_some hx ha hv, matchConditions, hx]
      dsimp only
      rw [hcondition, ih hrest]
      rfl

/-! ### Records that agree -/

/-- Whether a record has what is wanted, as criteria read it: a null where a null is wanted, or else
an equal value. -/
def agrees (tables : Tables) (wanted : List (Attribute × Value)) (r : Record) : Bool :=
  wanted.all fun (a, v) =>
    let value := r.valueOf (tables.catalog.entity? r.entity) a.name
    if v.isNull then value.isNull else value.looseEq v

/-- The records of an entity that agree with an input on some attributes, in the order of their
table. -/
def agreeing (tables : Tables) (e : Entity) (i : Input) (names : List String) : List Record :=
  (tables.records e.name).filter (agrees tables (i.wanted e names))

/-- The condition on an attribute holds for values that equal the wanted one, or are nulls if that
is one. -/
theorem holdsFor_agrees (a : Attribute) (v value : Value) :
    (a.agrees v).holdsFor value = if v.isNull then value.isNull else value.looseEq v := by
  unfold Attribute.agrees Condition.holdsFor
  by_cases hv : v.isNull = true
  · rw [if_pos hv, if_pos hv]
    by_cases hvalue : value.isNull = true
    · rw [if_pos hvalue, hvalue]
      rfl
    · rw [if_neg hvalue, Bool.eq_false_iff.2 hvalue]
      rfl
  · rw [if_neg hv, if_neg hv]
    by_cases hvalue : value.isNull = true
    · rw [if_pos hvalue, Value.looseEq_of_isNull (.inl hvalue)]
      rfl
    · rw [if_neg hvalue]
      rfl

/-- The conditions on attributes are about the records that are looked up. -/
theorem owner_agrees (a : Attribute) (v : Value) : (a.agrees v).owner = none := by
  unfold Attribute.agrees
  split <;> rfl

/-- The condition on an attribute bears its name. -/
theorem name_agrees (a : Attribute) (v : Value) : (a.agrees v).name = a.name := by
  unfold Attribute.agrees
  split <;> rfl

/-- The conditions are on the attributes that are wanted, in their order. -/
theorem names_conditions (wanted : List (Attribute × Value)) :
    (conditions wanted).map (·.name) = wanted.map (·.1.name) := by
  simp [conditions, name_agrees, Function.comp_def]

/-- A record meets the conditions if it agrees with what is wanted. -/
theorem holds_conditions (tables : Tables) (wanted : List (Attribute × Value)) (r : Record) :
    (Scope.ofRow tables (.ofRecord r)).holds (.ofConditions (conditions wanted)) =
      agrees tables wanted r := by
  have hmeets : ∀ entry : Attribute × Value,
      (Scope.ofRow tables (.ofRecord r)).meets (entry.1.agrees entry.2) =
        let value := r.valueOf (tables.catalog.entity? r.entity) entry.1.name
        if entry.2.isNull then value.isNull else value.looseEq entry.2 := by
    intro entry
    rw [Scope.meets, owner_agrees, name_agrees]
    exact holdsFor_agrees entry.1 entry.2 _
  simp only [Criteria.ofConditions, Scope.holds, Scope.allHold, Bool.and_true, conditions,
    List.all_map, agrees]
  congr 1
  funext entry
  exact hmeets entry

/-- What the query for an input puts out: the records that agree with it, with the identity and the
attributes that they are matched by. -/
theorem outputs_matchQuery (tables : Tables) (e stored : Entity)
    (wanted : List (Attribute × Value)) :
    (matchQuery e (conditions wanted)).outputs tables stored =
      ((tables.records stored.name).filter (agrees tables wanted)).map fun r =>
        r.project (tables.catalog.entity? r.entity)
          (.only (e.primaryId :: wanted.map (·.1.name))) := by
  have hcolumns : (matchQuery e (conditions wanted)).columns =
      .only (e.primaryId :: wanted.map (·.1.name)) := by
    rw [← names_conditions]
    rfl
  have hrows : (matchQuery e (conditions wanted)).rows tables stored =
      ((tables.records stored.name).map Row.ofRecord).filter fun row =>
        (Scope.ofRow tables row).holds (.ofConditions (conditions wanted)) := rfl
  have hfilter : ((fun row => (Scope.ofRow tables row).holds
      (.ofConditions (conditions wanted))) ∘ Row.ofRecord) = agrees tables wanted := by
    funext r
    exact holds_conditions tables wanted r
  rw [Query.outputs, hrows, List.filter_map, List.map_map, hfilter]
  refine List.map_congr_left fun r _ => ?_
  show r.project _ (matchQuery e (conditions wanted)).columns = _
  rw [hcolumns]
  rfl

/-! ### Matching -/

/-- The matches that are found, unless there are several that are not allowed. -/
def checked (attributes : List String) (allowMultiple : Bool) (found : List Record) :
    Answer (List Record) :=
  if 1 < found.length ∧ allowMultiple = false then
    .error (.of (.multipleMatches attributes found.length))
  else .ok found

/-- An input that wants something is matched by one query, of which all pages are read before their
number is looked at. -/
theorem runOn_matchesOn {σ : Type} (service : Service σ) (h : i.ConvertsOn e names)
    (hwanted : i.wanted e names ≠ []) (allowMultiple : Bool) (w : World σ) :
    ∃ line, (i.matchesOn service e names allowMultiple).runOn w =
      match (allMatches service (matchQuery e (conditions (i.wanted e names)))).runOn
          ⟨w.state, line :: w.journal⟩ with
      | (.ok found, w) => (checked ((i.wanted e names).map (·.1.name)) allowMultiple found, w)
      | (.error e, w) => (.error e, w) := by
  have hsome : (conditions (i.wanted e names)).isEmpty = false := by
    rw [conditions, List.isEmpty_map, List.isEmpty_eq_false_iff]
    exact hwanted
  refine ⟨debugLine ("Matching " ++ i.toText ++ " with " ++
    (matchQuery e (conditions (i.wanted e names))).toXml), ?_⟩
  unfold matchesOn
  rw [matchConditions_eq h, Call.runOn_bind, Call.runOn_ofAnswer]
  dsimp only
  rw [if_neg (by simp [hsome]), Call.runOn_bind]
  show Call.runOn ⟨w.state, _ :: w.journal⟩ (allMatches service _ >>= _) = _
  rw [Call.runOn_bind]
  cases (allMatches service (matchQuery e (conditions (i.wanted e names)))).runOn
      ⟨w.state, _ :: w.journal⟩ with
  | mk answer w =>
    cases answer with
    | error e => rfl
    | ok found =>
      dsimp only [checked]
      by_cases hseveral : 1 < found.length ∧ allowMultiple = false
      · rw [if_pos hseveral, if_pos (by simp [hseveral]), names_conditions]
        rfl
      · rw [if_neg hseveral, if_neg]
        · rfl
        · intro hfails
          rw [Bool.and_eq_true, decide_eq_true_eq, Bool.not_eq_true'] at hfails
          exact hseveral hfails.symm

/-- **Matching.** Take some declared attributes that make values of what an input has. An input that
has none of them matches nothing, and the store is not asked. Otherwise it matches the records that
agree with it, in the order of their table and each once, with their identities and the attributes
that it has. Where several are not allowed but agree, it fails and tells their number. Only an
entity that the store does not know, and more records than can be read in numbered pages, are in the
way. -/
theorem matchesOn_store (h : i.ConvertsOn e names) (allowMultiple : Bool) (w : World Store) :
    ((∀ name ∈ names, i.get? name = none) →
      (i.matchesOn Store.service e names allowMultiple).runOn w = (.ok [], w)) ∧
    ((∃ name ∈ names, i.get? name ≠ none) →
      ((agreeing w.state.tables e i names).map Record.id).Nodup ∧
      ∃ k journal, (i.matchesOn Store.service e names allowMultiple).runOn w =
        (match w.state.entity e.name with
          | .error fault => .error (.of (.remoteFault fault false))
          | .ok _ =>
            let found := agreeing w.state.tables e i names
            let attributes := (i.wanted e names).map (·.1.name)
            if readable < found.length then .error .breach
            else if 1 < found.length ∧ allowMultiple = false then
              .error (.of (.multipleMatches attributes found.length))
            else
              .ok (found.map fun r =>
                r.project (w.state.tables.catalog.entity? r.entity)
                  (.only (e.primaryId :: attributes))),
          ⟨w.state.afterQueries k, journal⟩)) := by
  constructor
  · intro hnone
    unfold matchesOn
    rw [matchConditions_eq h, (wanted_eq_nil h).2 hnone]
    rfl
  · rintro ⟨name, hname, hvalue⟩
    have hwanted : i.wanted e names ≠ [] := by
      intro hnil
      exact hvalue ((wanted_eq_nil h).1 hnil name hname)
    have hnodup : ((agreeing w.state.tables e i names).map Record.id).Nodup :=
      (List.filter_sublist.map _).nodup (w.state.tables.table e.name).nodup
    refine ⟨hnodup, ?_⟩
    obtain ⟨line, hrun⟩ := runOn_matchesOn Store.service h hwanted allowMultiple w
    obtain ⟨k, journal, hall⟩ := runOn_allMatches
      (q := matchQuery e (conditions (i.wanted e names))) rfl ⟨w.state, line :: w.journal⟩
    refine ⟨k, journal, ?_⟩
    rw [hrun, hall]
    dsimp only
    rw [show (matchQuery e (conditions (i.wanted e names))).entity = e.name from rfl]
    cases he : w.state.entity e.name with
    | error fault => rfl
    | ok stored =>
      -- the store keeps the records under the name that it knows the entity by
      have hstored : (w.state.tables.records stored.name).filter
          (agrees w.state.tables (i.wanted e names)) = agreeing w.state.tables e i names := by
        have hlower := Catalog.lower_of_entity? (Store.entity_eq_ok.1 he)
        rw [agreeing, Tables.records, Tables.records, Tables.table_congr _ hlower]
      dsimp only
      rw [outputs_matchQuery, hstored, List.length_map]
      by_cases hmany : readable < (agreeing w.state.tables e i names).length
      · rw [if_pos hmany, if_neg (Nat.not_le.2 hmany)]
      · rw [if_neg hmany, if_pos (Nat.le_of_not_lt hmany)]
        dsimp only [checked]
        rw [List.length_map]

/-- A note has a rank. -/
def rankedNote : Entity :=
  (Entity.ofName "note").declare (.ofType "rank" .integer)

/-- An input of rank seven. -/
def rankSeven : Input :=
  ⟨.ofList [("Rank", .loose (.int 7))]⟩

/-- Of four notes two have the rank, which is one too many unless several are allowed. -/
theorem matchesOn_store_notes :
    ∃ u v : World Store,
      (rankSeven.matchesOn Store.service rankedNote ["rank"] false).runOn ⟨Query.notes, []⟩ =
        (.error (.of (.multipleMatches ["rank"] 2)), u) ∧
      (rankSeven.matchesOn Store.service rankedNote ["rank"] true).runOn ⟨Query.notes, []⟩ =
        (.ok ([1, 4].map fun id => ⟨"note", some (.numbered id),
          .ofList [("noteid", .uuid (some (.numbered id))), ("rank", .int32 (some 7))]⟩), v) := by
  have hconverts : rankSeven.ConvertsOn rankedNote ["rank"] := by
    intro name hname
    obtain rfl := List.mem_singleton.1 hname
    refine ⟨.ofType "rank" .integer, rfl, fun x hx => ?_⟩
    cases hx
    exact ⟨_, rfl⟩
  have hpresent : ∃ name ∈ ["rank"], rankSeven.get? name ≠ none :=
    ⟨"rank", List.mem_cons_self, nofun⟩
  obtain ⟨-, k, journal, hrefused⟩ :=
    (matchesOn_store hconverts false ⟨Query.notes, []⟩).2 hpresent
  obtain ⟨-, k', journal', hfound⟩ :=
    (matchesOn_store hconverts true ⟨Query.notes, []⟩).2 hpresent
  have hentity : Query.notes.entity rankedNote.name = .ok rankedNote := rfl
  have hagreeing : agreeing Query.notes.tables rankedNote rankSeven ["rank"] =
      [Query.note 1 7, Query.note 4 7] := by
    decide +kernel
  rw [hentity, hagreeing] at hrefused hfound
  exact ⟨_, _, hrefused, hfound⟩

end Input

end RecordService
