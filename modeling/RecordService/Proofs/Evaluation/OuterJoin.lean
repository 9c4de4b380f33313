import RecordService.Proofs.Evaluation.Join
import RecordService.Proofs.Value.Order

namespace RecordService

/-!
# Outer joins

An outer link keeps a row without a counterpart, but the links below it go on from there: with no
record to start from they find nothing, so that one of them that is an inner join drops the row.

* `Link.missing`: what a row has of links that have found no record.
* `Link.extendAll_of_source?_eq_none`: what links make of a row without a record to start from.
* `Link.extend_leftOuter`: what an outer link makes of a row.
* `Link.extend_leftOuter_iff`: the rows that an outer link keeps.
-/

/-! ### Links without a record to start from -/

namespace Link

/-- What is joined to a row for links that have found no record. -/
def missing (ls : List Link) : List (String × Option Record) :=
  ls.map fun k => (k.referenceName, none)

theorem missing_nil : missing [] = [] := rfl

theorem missing_cons (l : Link) (ls : List Link) :
    missing (l :: ls) = (l.referenceName, none) :: missing ls := rfl

/-- What is joined for missing links is joined one after the other. -/
theorem missing_append (ls more : List Link) :
    missing (ls ++ more) = missing ls ++ missing more :=
  List.map_append

section

variable {tables : Tables} {parent : Option String} {row : Row}

/-- Joining no record gives links no record to start from. -/
theorem source?_join_none (h : source? parent row = none) (name : String) :
    source? parent (row.join name none) = none := by
  cases parent with
  | none => exact nomatch h
  | some owner =>
    rw [source?, Row.link?_join]
    split
    · rfl
    · exact h

/-- Joining nothing for some links gives the others no record to start from. -/
theorem source?_missing (h : source? parent row = none) (ls : List Link) :
    source? parent (row.joinAll (missing ls)) = none := by
  induction ls generalizing row with
  | nil => rwa [missing_nil, Row.joinAll_nil]
  | cons l ls ih =>
    rw [missing_cons, Row.joinAll_cons]
    exact ih (source?_join_none h l.referenceName)

/-- A null equals nothing, so a link finds no record for it. -/
theorem matched_of_source?_eq_none (h : source? parent row = none) (l : Link) :
    l.matched tables parent row = [] := by
  have hnull : ∀ v : Value, v.looseEq .null = false :=
    fun v => Value.looseEq_of_isNull (.inr rfl)
  have hfound : l.found tables parent row = [] := by
    unfold found key
    rw [h]
    simp only [candidates, hnull, List.filter_false, List.filter_nil]
  rw [matched, hfound, List.flatMap_nil]

/-- **Lost rows.** Links that have no record to start from keep the row as it is if all of them are
outer joins, those below them too. Otherwise they drop it. -/
theorem extendAll_of_source?_eq_none (ls : List Link) (h : source? parent row = none) :
    extendAll tables parent ls [row] =
      if ∀ k ∈ withinAll ls, k.type = .leftOuter then [row.joinAll (missing (withinAll ls))]
      else [] := by
  induction ls using forest_induction generalizing parent row with
  | nil =>
    rw [if_pos nofun, withinAll, missing_nil, Row.joinAll_nil]
    rfl
  | cons l ls ihLinks ihRest =>
    have hunmatched := ihLinks (source?_join_self row l.referenceName none)
    rw [extendAll_cons_singleton, extend_singleton, matched_of_source?_eq_none h, unmatched,
      hunmatched, withinAll_cons]
    simp only [List.forall_mem_cons, List.forall_mem_append]
    cases htype : l.type with
    | inner =>
      -- nothing is found, and an inner join goes by nothing else
      rw [orAlone_inner, if_neg (by simp)]
      rfl
    | leftOuter =>
      rw [orAlone_leftOuter, if_pos rfl]
      by_cases hbelow : ∀ k ∈ withinAll l.links, k.type = .leftOuter
      · -- one row goes on to the siblings
        rw [if_pos hbelow, List.flatMap_singleton,
          ihRest (source?_missing (source?_join_none h _) _), missing_cons, missing_append,
          Row.joinAll_cons, Row.joinAll_append]
        simp only [and_iff_right hbelow, true_and]
      · -- no row is left for the siblings
        rw [if_neg hbelow, if_neg fun hall => hbelow hall.2.1]
        rfl

/-! ### Outer links -/

/-- The same link as an inner join. -/
def asInner (l : Link) : Link :=
  { l with type := .inner }

/-- What a link makes of a row with the records that it finds is the inner join. -/
theorem extend_asInner (l : Link) : l.asInner.extend tables parent [row] =
    l.matched tables parent row := by
  rw [extend_singleton]
  exact orAlone_inner _ _

/-- **Outer join.** An outer link makes the rows of the inner join. Without any, the row stays with
no record for the links, unless one of those below is an inner join. -/
theorem extend_leftOuter {l : Link} (houter : l.type = .leftOuter) :
    l.extend tables parent [row] =
      if l.asInner.extend tables parent [row] = [] then
        if ∀ k ∈ withinAll l.links, k.type = .leftOuter then [row.joinAll (missing l.within)]
        else []
      else l.asInner.extend tables parent [row] := by
  rw [extend_asInner, extend_singleton, houter, orAlone_leftOuter, unmatched,
    extendAll_of_source?_eq_none l.links (source?_join_self row l.referenceName none), within_eq,
    missing_cons, Row.joinAll_cons]

/-- **Kept rows.** An outer link makes out of each row, in order, rows that extend it. There are
some exactly if all links below it are outer joins too, or if the same link as an inner join makes
some. -/
theorem extend_leftOuter_iff (tables : Tables) (parent : Option String) {l : Link}
    (houter : l.type = .leftOuter) (rows : List Row) :
    l.extend tables parent rows = (rows.flatMap fun row => l.extend tables parent [row]) ∧
      ∀ row, (∀ row' ∈ l.extend tables parent [row], row'.Extends row) ∧
        (l.extend tables parent [row] ≠ [] ↔
          (∀ k ∈ withinAll l.links, k.type = .leftOuter) ∨
            l.asInner.extend tables parent [row] ≠ []) := by
  refine ⟨extend_eq_flatMap l rows, fun row => ⟨fun row' h => extends_of_mem_extend h, ?_⟩⟩
  rw [extend_leftOuter houter]
  by_cases hnone : l.asInner.extend tables parent [row] = []
  · rw [if_pos hnone, hnone, or_iff_left (not_not.2 rfl)]
    by_cases hbelow : ∀ k ∈ withinAll l.links, k.type = .leftOuter
    · rw [if_pos hbelow]
      exact iff_of_true (List.cons_ne_nil _ _) hbelow
    · rw [if_neg hbelow]
      exact iff_of_false (not_not.2 rfl) hbelow
  · rw [if_neg hnone]
    exact iff_of_true hnone (.inr hnone)

end

namespace Orphans

/-- A contact, with the account that it belongs to. -/
def contact (id : Nat) (account : Option Nat) : Record :=
  ⟨"contact", some (.numbered id), .ofList [("account", .uuid (account.map .numbered))]⟩

/-- An account, with the contact that speaks for it. -/
def account (id : Nat) (speaker : Option Nat) : Record :=
  ⟨"account", some (.numbered id), .ofList [("speaker", .uuid (speaker.map .numbered))]⟩

/-- A contact of an account that has a speaker, one of an account without a speaker, and one of no
account. -/
def contacts : List Record :=
  [contact 3 (some 1), contact 4 (some 2), contact 5 none]

def tables : Tables :=
  (account 1 (some 3) :: account 2 none :: contacts).foldl (fun ts r => ts.put r.entity r)
    (.ofCatalog .empty)

/-- The account of a contact if it has one, joined with the speaker of the account. -/
def accounts (speakers : JoinType) : Link :=
  ⟨"contact", "account", "account", "accountid", .leftOuter, none, .always,
    [⟨"account", "speaker", "contact", "contactid", speakers, none, .always, [], []⟩], []⟩

/-- With an inner link to the speaker, only the contact whose account has one stays. -/
theorem extend_accounts :
    (accounts .inner).extend tables none (contacts.map .ofRecord) =
      [((Row.ofRecord (contact 3 (some 1))).join "account" (some (account 1 (some 3)))).join
        "contact" (some (contact 3 (some 1)))] := by
  decide +kernel

end Orphans

/-- If the speaker is an outer join too, every row stays, and else the contact whose account has a
speaker. -/
theorem extend_leftOuter_iff_accounts :
    (Orphans.accounts .leftOuter).type = .leftOuter ∧
      (∀ row, (Orphans.accounts .leftOuter).extend Orphans.tables none [row] ≠ []) ∧
      (Orphans.accounts .inner).type = .leftOuter ∧
      (Orphans.accounts .inner).extend Orphans.tables none
        [.ofRecord (Orphans.contact 3 (some 1))] ≠ [] := by
  obtain ⟨-, houter⟩ :=
    extend_leftOuter_iff Orphans.tables none (l := Orphans.accounts .leftOuter) rfl []
  obtain ⟨-, hinner⟩ :=
    extend_leftOuter_iff Orphans.tables none (l := Orphans.accounts .inner) rfl []
  refine ⟨rfl, fun row => (houter row).2.2 (.inl (by decide)), rfl, ?_⟩
  exact (hinner (.ofRecord (Orphans.contact 3 (some 1)))).2.2 (.inr (by decide +kernel))

/-- An outer link with an inner one below it loses two of three contacts. -/
theorem extend_leftOuter_lost :
    (Orphans.accounts .inner).type = .leftOuter ∧
      ((Orphans.accounts .inner).within.Pairwise fun j k =>
        Text.eqIgnoreCase j.referenceName k.referenceName = false) ∧
      ¬∀ row ∈ Orphans.contacts.map Row.ofRecord,
        ∃ row' ∈ (Orphans.accounts .inner).extend Orphans.tables none
          (Orphans.contacts.map Row.ofRecord), row'.Extends row := by
  refine ⟨rfl, by decide +kernel, fun hkept => ?_⟩
  obtain ⟨row', hmem, hroot, -⟩ :=
    hkept (.ofRecord (Orphans.contact 5 none)) (by decide +kernel)
  rw [Orphans.extend_accounts] at hmem
  cases List.mem_singleton.1 hmem
  exact absurd hroot (by decide +kernel)

end Link

end RecordService
