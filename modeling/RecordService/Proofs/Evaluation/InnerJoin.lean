import Mathlib.Data.List.Lex
import Mathlib.Data.List.Nodup
import RecordService.Proofs.Evaluation.Join
import RecordService.Proofs.Filter.ReadBack

namespace RecordService

/-!
# Inner joins

Links that drop rows without a counterpart make the relational join: a row for each assignment of
records to the links, in the lexicographic order of the tables. This takes names that tell the
links apart, and criteria that are about the linked records alone.

* `Link.Fits`: the records that a link may be assigned, next to the record of its parent.
  `Link.Assigns`: the assignments to some links and those below them.
* `Link.assignments`: all assignments, by nested loops. `Link.mem_assignmentsAll`,
  `Link.pairwise_assignmentsAll`: they are complete and in order.
* `Link.extendAll_relational`: the rows that inner links make of a row.
* `Link.extend_relational`: the rows that an inner link makes.
-/

/-! ### Criteria without owners -/

/-- Criteria without owners are about the current record alone, whatever the row has joined. -/
theorem Scope.holds_congr {s t : Scope} (htables : s.tables = t.tables)
    (hcurrent : s.current = t.current) {f : Criteria}
    (h : ∀ c ∈ f.conditionsWithin, c.owner = none) : s.holds f = t.holds f := by
  induction f using Criteria.group_induction with
  | group connective conditions filters ih =>
    simp only [Criteria.conditionsWithin, Criteria.conditionsWithinAll_eq, List.forall_mem_append]
      at h
    obtain ⟨hconditions, hfilters⟩ := h
    have hmeets : ∀ c ∈ conditions, s.meets c = t.meets c := by
      intro c hc
      simp only [meets, value, owner?, hconditions c hc, htables, hcurrent]
    have hholds : ∀ f ∈ filters, s.holds f = t.holds f := by
      intro f hf
      exact ih f hf fun c hc => hfilters c (List.mem_flatMap_of_mem hf hc)
    rw [holds_group, holds_group, List.map_congr_left hmeets, List.map_congr_left hholds]

namespace Link

section

variable {tables : Tables}

/-! ### Assignments -/

/-- A record fits a link from the record of its parent: it is of the linked entity, the two
attributes have equal values, and the record by itself meets the criteria of the link. -/
structure Fits (tables : Tables) (parent : Record) (l : Link) (r : Record) : Prop where
  mem : r ∈ tables.records l.toEntity
  value : (r.valueOf (tables.catalog.entity? l.toEntity) l.toName).looseEq
    (parent.valueOf (tables.catalog.entity? parent.entity) l.fromName) = true
  criteria : (Scope.ofRow tables (.ofRecord r)).holds l.criteria = true

/-- What is joined to a row for the records that some links are assigned. -/
def entries (a : List (Link × Record)) : List (String × Option Record) :=
  a.map fun x => (x.1.referenceName, some x.2)

theorem entries_nil : entries [] = [] := rfl

theorem entries_cons (l : Link) (r : Record) (a : List (Link × Record)) :
    entries ((l, r) :: a) = (l.referenceName, some r) :: entries a := rfl

/-- What is joined for two assignments is joined one after the other. -/
theorem entries_append (a b : List (Link × Record)) :
    entries (a ++ b) = entries a ++ entries b :=
  List.map_append

/-- Some links and those below them, in preorder, each with a record that fits it. -/
inductive Assigns (tables : Tables) : Record → List Link → List (Link × Record) → Prop
  | nil (parent : Record) : Assigns tables parent [] []
  | cons {parent r : Record} {l : Link} {ls : List Link} {below rest : List (Link × Record)} :
    l.Fits tables parent r → Assigns tables r l.links below → Assigns tables parent ls rest →
      Assigns tables parent (l :: ls) ((l, r) :: (below ++ rest))

/-- Every link is assigned a record. -/
theorem Assigns.map_fst {parent : Record} {ls : List Link} {a : List (Link × Record)}
    (h : Assigns tables parent ls a) : a.map Prod.fst = withinAll ls := by
  induction h with
  | nil parent => rfl
  | cons hfits hbelow hrest ihBelow ihRest =>
    rw [List.map_cons, List.map_append, ihBelow, ihRest, withinAll_cons]

/-- A link is assigned an earlier record of its table. -/
def Before (tables : Tables) (x y : Link × Record) : Prop :=
  x.1 = y.1 ∧ [x.2, y.2].Sublist (tables.records x.1.toEntity)

/-- An assignment with an earlier record is another one, as a table has no record twice. -/
theorem Before.ne {x y : Link × Record} (h : Before tables x y) : x ≠ y := by
  rintro rfl
  -- a table has no record twice
  have hnodup := List.Nodup.of_map Record.id (tables.table x.1.toEntity).nodup
  exact absurd List.mem_cons_self (List.nodup_cons.1 (hnodup.sublist h.2)).1

/-! ### Nested loops -/

/-- The records that fit a link, in the order of their table. -/
def fitting (tables : Tables) (parent : Record) (l : Link) : List Record :=
  (candidates tables l.toEntity l.toName
    (parent.valueOf (tables.catalog.entity? parent.entity) l.fromName)).filter fun r =>
      (Scope.ofRow tables (.ofRecord r)).holds l.criteria

/-- The candidates that meet the criteria are the records that fit. -/
theorem mem_fitting {parent r : Record} {l : Link} :
    r ∈ l.fitting tables parent ↔ l.Fits tables parent r := by
  unfold fitting candidates
  rw [List.mem_filter, List.mem_filter]
  constructor
  · rintro ⟨⟨hmem, hvalue⟩, hcriteria⟩
    exact ⟨hmem, hvalue, hcriteria⟩
  · rintro ⟨hmem, hvalue, hcriteria⟩
    exact ⟨⟨hmem, hvalue⟩, hcriteria⟩

/-- The records that fit come in the order of their table. -/
theorem pairwise_fitting (parent : Record) (l : Link) :
    (l.fitting tables parent).Pairwise fun r r' => Before tables (l, r) (l, r') := by
  have hsub : (l.fitting tables parent).Sublist (tables.records l.toEntity) :=
    List.filter_sublist.trans List.filter_sublist
  rw [List.pairwise_iff_forall_sublist]
  intro r r' hpair
  exact ⟨rfl, hpair.trans hsub⟩

mutual

/-- The assignments to a link and those below it, by nested loops over their tables. -/
def assignments (tables : Tables) : Record → Link → List (List (Link × Record))
  | parent, ⟨fromEntity, fromName, toEntity, toName, type, label, criteria, links, columns⟩ =>
    let l : Link :=
      ⟨fromEntity, fromName, toEntity, toName, type, label, criteria, links, columns⟩
    (l.fitting tables parent).flatMap fun r =>
      (assignmentsAll tables r links).map fun below => (l, r) :: below

/-- The assignments to some links and those below them. -/
def assignmentsAll (tables : Tables) : Record → List Link → List (List (Link × Record))
  | _, [] => [[]]
  | parent, l :: ls =>
    (assignments tables parent l).flatMap fun a =>
      (assignmentsAll tables parent ls).map fun rest => a ++ rest

end

/-- The assignments to a link are those to the links below it, for each record that fits. -/
theorem assignments_eq (parent : Record) (l : Link) :
    assignments tables parent l =
      (l.fitting tables parent).flatMap fun r =>
        (assignmentsAll tables r l.links).map fun below => (l, r) :: below := by
  cases l
  rfl

/-- **Complete.** The nested loops find every assignment. -/
theorem mem_assignmentsAll {ls : List Link} {parent : Record} {a : List (Link × Record)} :
    a ∈ assignmentsAll tables parent ls ↔ Assigns tables parent ls a := by
  induction ls using forest_induction generalizing parent a with
  | nil =>
    rw [assignmentsAll, List.mem_singleton]
    constructor
    · rintro rfl
      exact .nil parent
    · intro h
      cases h
      rfl
  | cons l ls ihLinks ihRest =>
    simp only [assignmentsAll, assignments_eq, List.mem_flatMap, List.mem_map]
    constructor
    · rintro ⟨_, ⟨r, hr, below, hbelow, rfl⟩, rest, hrest, rfl⟩
      exact .cons (mem_fitting.1 hr) (ihLinks.1 hbelow) (ihRest.1 hrest)
    · intro h
      cases h with
      | @cons _ r _ _ below rest hfits hbelow hrest =>
        exact ⟨_, ⟨r, mem_fitting.2 hfits, below, ihLinks.2 hbelow, rfl⟩, rest, ihRest.2 hrest, rfl⟩

/-- The assignments to a single link are those to a list of it alone. -/
theorem assignmentsAll_singleton (parent : Record) (l : Link) :
    assignmentsAll tables parent [l] = assignments tables parent l := by
  simp only [assignmentsAll, List.map_singleton, List.append_nil, List.flatMap_singleton']

/-- Every link of a tree is assigned a record. -/
theorem map_fst_of_mem_assignments {parent : Record} {l : Link} {a : List (Link × Record)}
    (h : a ∈ assignments tables parent l) : a.map Prod.fst = l.within := by
  rw [← assignmentsAll_singleton, mem_assignmentsAll] at h
  rw [h.map_fst, withinAll, withinAll, List.append_nil]

/-- Where two lists of the same length differ decides their order, whatever comes after them. -/
theorem lex_append {α : Type} {R : α → α → Prop} {a b : List α} (h : List.Lex R a b)
    (hlength : a.length = b.length) (c d : List α) : List.Lex R (a ++ c) (b ++ d) := by
  induction h with
  | nil => exact nomatch hlength
  | rel hrel => exact .rel hrel
  | cons _ ih => exact .cons (ih (Nat.succ.inj hlength))

/-- **In order.** The nested loops go through the assignments in lexicographic order. -/
theorem pairwise_assignmentsAll (parent : Record) (ls : List Link) :
    (assignmentsAll tables parent ls).Pairwise (List.Lex (Before tables)) := by
  induction ls using forest_induction generalizing parent with
  | nil => exact List.pairwise_singleton _ _
  | cons l ls ihLinks ihRest =>
    have hlink : (assignments tables parent l).Pairwise (List.Lex (Before tables)) := by
      rw [assignments_eq, List.pairwise_flatMap]
      constructor
      · -- the same record for the link, so the links below decide
        intro r _
        exact List.pairwise_map.2 ((ihLinks r).imp .cons)
      · refine (pairwise_fitting parent l).imp ?_
        intro r r' hbefore a ha b hb
        obtain ⟨below, -, rfl⟩ := List.mem_map.1 ha
        obtain ⟨below', -, rfl⟩ := List.mem_map.1 hb
        exact .rel hbefore
    rw [assignmentsAll, List.pairwise_flatMap]
    constructor
    · -- the same records for the tree of the link, so the siblings decide
      intro a _
      exact List.pairwise_map.2 ((ihRest parent).imp fun h => h.append_left _ a)
    · refine hlink.imp_of_mem ?_
      intro a b ha hb hlex c hc d hd
      obtain ⟨rest, -, rfl⟩ := List.mem_map.1 hc
      obtain ⟨rest', -, rfl⟩ := List.mem_map.1 hd
      -- both assign a record to the same links, so what follows does not count
      have hlength := congrArg List.length
        ((map_fst_of_mem_assignments ha).trans (map_fst_of_mem_assignments hb).symm)
      rw [List.length_map, List.length_map] at hlength
      exact lex_append hlex hlength rest rest'

/-! ### Relational links -/

/-- Links that drop rows without a counterpart, with names that tell them apart, and with criteria
about the linked records alone. -/
structure Relational (ls : List Link) : Prop where
  inner : ∀ k ∈ withinAll ls, k.type = .inner
  names : (withinAll ls).Pairwise fun k l =>
    Text.eqIgnoreCase k.referenceName l.referenceName = false
  unowned : ∀ c ∈ conditionsWithinAll ls, c.owner = none

/-- No link of some has the name of the parent. -/
def Fresh (parent : Option String) (ls : List Link) : Prop :=
  ∀ name ∈ parent, ∀ k ∈ withinAll ls, Text.eqIgnoreCase k.referenceName name = false

variable {parent : Option String} {l : Link} {ls : List Link}

/-- The links below a relational link are relational. -/
theorem Relational.below (h : Relational (l :: ls)) : Relational l.links := by
  obtain ⟨hinner, hnames, hunowned⟩ := h
  rw [withinAll_cons] at hinner hnames
  cases l
  simp only [conditionsWithinAll, conditionsWithin, List.forall_mem_append] at hunowned
  exact ⟨(List.forall_mem_append.1 (List.forall_mem_cons.1 hinner).2).1,
    (List.pairwise_append.1 (List.pairwise_cons.1 hnames).2).1, hunowned.1.2⟩

/-- The links next to a relational link are relational. -/
theorem Relational.rest (h : Relational (l :: ls)) : Relational ls := by
  obtain ⟨hinner, hnames, hunowned⟩ := h
  exact ⟨(List.forall_mem_append.1 hinner).2, (List.pairwise_append.1 hnames).2.1,
    (List.forall_mem_append.1 hunowned).2⟩

/-- A relational link is an inner one. -/
theorem Relational.type_eq (h : Relational (l :: ls)) : l.type = .inner :=
  h.inner l (withinAll_cons l ls ▸ List.mem_cons_self)

/-- The criteria of a relational link are about the linked record alone. -/
theorem Relational.owner_eq_none (h : Relational (l :: ls)) :
    ∀ c ∈ l.criteria.conditionsWithin, c.owner = none := by
  intro c hc
  apply h.unowned
  cases l
  exact List.mem_append_left _ (List.mem_append_left _ hc)

/-- The links below a link have other names. -/
theorem Relational.fresh_below (h : Relational (l :: ls)) :
    Fresh (some l.referenceName) l.links := by
  have hnames := h.names
  rw [withinAll_cons] at hnames
  rintro name ⟨⟩ k hk
  rw [Text.eqIgnoreCase_comm]
  exact (List.pairwise_cons.1 hnames).1 k (List.mem_append_left _ hk)

/-- A name that is fresh for some links is fresh for the later ones. -/
theorem Fresh.rest (h : Fresh parent (l :: ls)) : Fresh parent ls :=
  fun name hname k hk => h name hname k (List.mem_append_right _ hk)

/-! ### Joins -/

/-- What a link finds in a row is what fits it, if its criteria are about the found record alone. -/
theorem found_eq_fitting {row : Row} {p : Record} (hsource : source? parent row = some p)
    (hunowned : ∀ c ∈ l.criteria.conditionsWithin, c.owner = none) :
    l.found tables parent row = l.fitting tables p := by
  unfold found fitting key
  rw [hsource]
  refine List.filter_congr fun r _ => ?_
  refine Scope.holds_congr ?_ ?_ hunowned <;> rfl

/-- Joining records under other names leaves the record that a link starts from. -/
theorem source?_joinAll {a : List (Link × Record)}
    (h : ∀ name ∈ parent, ∀ x ∈ a, Text.eqIgnoreCase x.1.referenceName name = false) (row : Row) :
    source? parent (row.joinAll (entries a)) = source? parent row := by
  induction a generalizing row with
  | nil => rw [entries_nil, Row.joinAll_nil]
  | cons x a ih =>
    have hother : ∀ name ∈ parent, Text.eqIgnoreCase x.1.referenceName name = false :=
      fun name hname => h name hname x List.mem_cons_self
    have hrest := ih fun name hname y hy => h name hname y (List.mem_cons_of_mem _ hy)
    rw [entries_cons, Row.joinAll_cons, hrest, source?_join_of_ne hother]

/-- **Relational step.** A link makes a row of each of its assignments, if the links below it do. -/
theorem extend_singleton_relational {row : Row} {p : Record} (h : Relational (l :: ls))
    (hsource : source? parent row = some p)
    (hbelow : ∀ r, extendAll tables (some l.referenceName) l.links
        [row.join l.referenceName (some r)] =
      (assignmentsAll tables r l.links).map fun a =>
        (row.join l.referenceName (some r)).joinAll (entries a)) :
    l.extend tables parent [row] =
      (assignments tables p l).map fun a => row.joinAll (entries a) := by
  rw [extend_singleton, h.type_eq, orAlone_inner, matched,
    found_eq_fitting hsource h.owner_eq_none, assignments_eq, List.map_flatMap]
  refine List.flatMap_congr fun r _ => ?_
  rw [hbelow, List.map_map]
  exact List.map_congr_left fun a _ =>
    (row.joinAll_cons l.referenceName (some r) (entries a)).symm

/-- **Relational run.** Links make a row of each of their assignments. -/
theorem extendAll_relational (h : Relational ls) {row : Row} {p : Record}
    (hsource : source? parent row = some p) (hfresh : Fresh parent ls) :
    extendAll tables parent ls [row] =
      (assignmentsAll tables p ls).map fun a => row.joinAll (entries a) := by
  -- below a link its record takes the place of the parent's
  induction ls using forest_induction generalizing parent row p with
  | nil =>
    rw [extendAll, assignmentsAll, List.map_singleton, entries_nil, Row.joinAll_nil]
  | cons l ls ihLinks ihRest =>
    have hlink : l.extend tables parent [row] =
        (assignments tables p l).map fun a => row.joinAll (entries a) := by
      refine extend_singleton_relational h hsource fun r => ?_
      exact ihLinks h.below (source?_join_self row _ (some r)) h.fresh_below
    rw [extendAll_cons_singleton, hlink, List.flatMap_map, assignmentsAll, List.map_flatMap]
    refine List.flatMap_congr fun a ha => ?_
    -- the siblings start from the same record as the link
    have hother : ∀ name ∈ parent, ∀ x ∈ a, Text.eqIgnoreCase x.1.referenceName name = false := by
      intro name hname x hx
      apply hfresh name hname
      apply List.mem_append_left
      rw [← map_fst_of_mem_assignments ha]
      exact List.mem_map_of_mem hx
    rw [ihRest h.rest ((source?_joinAll hother row).trans hsource) hfresh.rest, List.map_map]
    refine List.map_congr_left fun rest _ => ?_
    rw [Function.comp_apply, entries_append, Row.joinAll_append]

/-- **Relational join.** A tree of inner links that no two names confuse, with criteria about the
linked records alone, makes of each row, in order, one row for each assignment of records to its
links, with the records joined in preorder. The assignments are all there are, each once, in the
lexicographic order of the tables. -/
theorem extend_relational (hinner : ∀ k ∈ l.within, k.type = .inner)
    (hnames : l.within.Pairwise fun j k =>
      Text.eqIgnoreCase j.referenceName k.referenceName = false)
    (hunowned : ∀ c ∈ l.conditionsWithin, c.owner = none) (rows : List Row) :
    l.extend tables none rows =
        (rows.flatMap fun row =>
          (assignments tables row.root l).map fun a => row.joinAll (entries a)) ∧
      ∀ root, (∀ a, a ∈ assignments tables root l ↔ Assigns tables root [l] a) ∧
        (assignments tables root l).Nodup ∧
        (assignments tables root l).Pairwise (List.Lex (Before tables)) ∧
        ∀ a ∈ assignments tables root l, a.map Prod.fst = l.within := by
  have hwithin : withinAll [l] = l.within := List.append_nil _
  have hconditions : conditionsWithinAll [l] = l.conditionsWithin := List.append_nil _
  have h : Relational [l] :=
    ⟨hwithin ▸ hinner, hwithin ▸ hnames, hconditions ▸ hunowned⟩
  constructor
  · rw [extend_eq_flatMap]
    refine List.flatMap_congr fun row _ => ?_
    -- without a parent a link starts from the root, whatever the row has joined
    rw [← assignmentsAll_singleton]
    exact extendAll_relational h rfl nofun
  · intro root
    have hordered : (assignmentsAll tables root [l]).Pairwise (List.Lex (Before tables)) :=
      pairwise_assignmentsAll root [l]
    rw [assignmentsAll_singleton] at hordered
    refine ⟨fun a => ?_, ?_, hordered, fun a ha => map_fst_of_mem_assignments ha⟩
    · rw [← assignmentsAll_singleton]
      exact mem_assignmentsAll
    · refine hordered.imp fun hlex => ?_
      exact (List.Lex.imp (fun _ _ hbefore => hbefore.ne) _ _ hlex).to_ne

end

namespace Sample

/-- A record with texts. -/
def record (entity : String) (id : Nat) (texts : List (String × String)) : Record :=
  ⟨entity, some (.numbered id), .ofList (texts.map fun x => (x.1, .text (some x.2)))⟩

def acme : Record := record "account" 1 [("name", "Acme")]

def globex : Record := record "account" 2 [("name", "Globex")]

def joe : Record := record "contact" 3 [("fullname", "Joe"), ("company", "acme")]

def ann : Record := record "contact" 4 [("fullname", "Ann"), ("company", "Acme")]

def call (id : Nat) (contact : String) : Record := record "call" id [("contact", contact)]

def letter (id : Nat) (contact state : String) : Record :=
  record "letter" id [("contact", contact), ("state", state)]

/-- Two contacts of the same account, with calls and letters. -/
def tables : Tables :=
  [acme, globex, joe, ann, call 5 "Joe", call 6 "joe", call 7 "Ann", letter 8 "Ann" "sent",
    letter 9 "Joe" "sent", letter 10 "Joe" "draft", letter 11 "Joe" "sent"].foldl
      (fun ts r => ts.put r.entity r) (.ofCatalog .empty)

def calls : Link :=
  ⟨"contact", "fullname", "call", "contact", .inner, none, .always, [], []⟩

/-- The letters that have been sent. -/
def letters : Link :=
  ⟨"contact", "fullname", "letter", "contact", .inner, none,
    .ofConditions [⟨none, "state", .equal, [.text (some "sent")]⟩], [], []⟩

/-- The contacts of an account, with their calls and letters. -/
def contacts : Link :=
  ⟨"account", "name", "contact", "company", .inner, some "c", .always, [calls, letters], []⟩

/-- A contact with a call and a letter. -/
def assigned (contact call letter : Record) : List (Link × Record) :=
  [(contacts, contact), (calls, call), (letters, letter)]

/-- The contacts of an account come before their calls and letters. -/
theorem within_contacts : contacts.within = [contacts, calls, letters] := rfl

/-- All links of the contacts are inner ones. -/
theorem inner_contacts : ∀ k ∈ contacts.within, k.type = .inner := by
  rw [within_contacts]
  simp [contacts, calls, letters]

/-- The names of the contacts, calls and letters tell them apart. -/
theorem names_contacts : contacts.within.Pairwise fun j k =>
    Text.eqIgnoreCase j.referenceName k.referenceName = false := by
  rw [within_contacts]
  decide +kernel

/-- No criteria of the contacts name an owner. -/
theorem unowned_contacts : ∀ c ∈ contacts.conditionsWithin, c.owner = none := by
  decide +kernel

end Sample

/-- The account with two contacts makes a row for each call and letter of the same contact, and the
account without contacts makes none. -/
theorem extend_relational_contacts :
    (∀ k ∈ Sample.contacts.within, k.type = .inner) ∧
      (Sample.contacts.within.Pairwise fun j k =>
        Text.eqIgnoreCase j.referenceName k.referenceName = false) ∧
      (∀ c ∈ Sample.contacts.conditionsWithin, c.owner = none) ∧
      Sample.contacts.extend Sample.tables none [.ofRecord Sample.acme, .ofRecord Sample.globex] =
        [Sample.assigned Sample.joe (Sample.call 5 "Joe") (Sample.letter 9 "Joe" "sent"),
          Sample.assigned Sample.joe (Sample.call 5 "Joe") (Sample.letter 11 "Joe" "sent"),
          Sample.assigned Sample.joe (Sample.call 6 "joe") (Sample.letter 9 "Joe" "sent"),
          Sample.assigned Sample.joe (Sample.call 6 "joe") (Sample.letter 11 "Joe" "sent"),
          Sample.assigned Sample.ann (Sample.call 7 "Ann") (Sample.letter 8 "Ann" "sent")].map
            (fun a => (Row.ofRecord Sample.acme).joinAll (entries a)) ∧
      (assignments Sample.tables Sample.acme Sample.contacts).Nodup ∧
      ∀ a, a ∈ assignments Sample.tables Sample.acme Sample.contacts ↔
        Assigns Sample.tables Sample.acme [Sample.contacts] a := by
  obtain ⟨hrows, hassigned⟩ := extend_relational Sample.inner_contacts Sample.names_contacts
    Sample.unowned_contacts [.ofRecord Sample.acme, .ofRecord Sample.globex]
  obtain ⟨hall, honce, -, -⟩ := hassigned Sample.acme
  refine ⟨Sample.inner_contacts, Sample.names_contacts, Sample.unowned_contacts, ?_, honce, hall⟩
  exact hrows.trans (by decide +kernel)

end Link

end RecordService
