import RecordService.Proofs.Evaluation.Join
import RecordService.Proofs.Join.Nesting

namespace RecordService

/-!
# Trees of links that hang together

A link starts from the record that it hangs from: the root of a query, or the record of another
link, which goes by its entity or by its reference name. A join in loose data is compiled to such a
tree whichever way round its pairs are written, and the check of a tree that comes in as it is asks
for the same, so that it finds no fault with what was compiled.

* `Link.HangsFrom`: a tree of links that hangs together, below some names.
* `Link.check_eq_ok_iff`: the check accepts exactly these trees.
* `Link.hangsFrom_ofJson`: what a join in loose data is compiled to is one.
* `JoinInput.compile_native`: a compiled join passes the check.
-/

namespace Link

/-- A link that starts from one of some names, and every link below it from the entity or from the
reference name of the link that it hangs from. -/
inductive HangsFrom : List String → Link → Prop where
  | intro {parents : List String} {l : Link} (hfrom : isNameIn parents l.fromEntity = true)
      (hlinks : ∀ child ∈ l.links, HangsFrom l.parentNames child) : HangsFrom parents l

/-- A link hangs from its parent, and the links below it from it. -/
theorem hangsFrom_iff {parents : List String} {l : Link} :
    l.HangsFrom parents ↔ isNameIn parents l.fromEntity = true ∧
      ∀ child ∈ l.links, child.HangsFrom l.parentNames := by
  constructor
  · rintro ⟨hfrom, hlinks⟩
    exact ⟨hfrom, hlinks⟩
  · rintro ⟨hfrom, hlinks⟩
    exact .intro hfrom hlinks

/-! ### The check -/

/-- A link is checked against its parent, and the links below it against it. -/
theorem check_eq_ok {parent : String} {l : Link} :
    l.check parent = .ok () ↔ Text.eqIgnoreCase l.fromEntity parent = true ∧
      checkAll l.toEntity l.referenceName l.links = .ok () := by
  obtain ⟨fromEntity, fromName, toEntity, toName, type, label, criteria, links, columns⟩ := l
  rw [check]
  split
  · rename_i hfrom
    exact (and_iff_right hfrom).symm
  · rename_i hfrom
    exact ⟨nofun, fun h => absurd h.1 hfrom⟩

/-- The name that a link is checked against is the entity if the link starts from it, so that it
starts from one of the two names if and only if it starts from the one that was chosen. -/
theorem eqIgnoreCase_chosen {fromEntity entity reference : String} :
    Text.eqIgnoreCase fromEntity
        (if Text.eqIgnoreCase fromEntity entity then entity else reference) = true ↔
      isNameIn [entity, reference] fromEntity = true := by
  simp only [isNameIn, List.any_cons, List.any_nil, Bool.or_false, Bool.or_eq_true,
    Text.eqIgnoreCase_comm _ fromEntity]
  split
  · rename_i h
    exact ⟨.inl, fun _ => h⟩
  · rename_i h
    exact ⟨.inr, fun h' => h'.resolve_left h⟩

/-- **The check below a link.** Links are accepted if and only if each of them hangs from one of the
two names that they are checked against. -/
theorem checkAll_eq_ok_iff {entity reference : String} {ls : List Link} :
    checkAll entity reference ls = .ok () ↔ ∀ l ∈ ls, l.HangsFrom [entity, reference] := by
  induction ls using forest_induction generalizing entity reference with
  | nil =>
    rw [checkAll]
    exact ⟨fun _ => List.forall_mem_nil _, fun _ => rfl⟩
  | cons l ls hbelow hbeside =>
    have hlink : l.check (if Text.eqIgnoreCase l.fromEntity entity then entity else reference) =
        .ok () ↔ l.HangsFrom [entity, reference] := by
      rw [check_eq_ok, eqIgnoreCase_chosen, hbelow, hangsFrom_iff]
      rfl
    rw [checkAll, List.forall_mem_cons, ← hlink, ← hbeside, Answer.bind_eq_ok]
    exact ⟨fun ⟨_, h⟩ => h, fun h => ⟨(), h⟩⟩

/-- **The check.** It accepts a link that hangs from its parent, with all links below it. -/
theorem check_eq_ok_iff {parent : String} {l : Link} :
    l.check parent = .ok () ↔ l.HangsFrom [parent] := by
  have hfrom : isNameIn [parent] l.fromEntity = Text.eqIgnoreCase l.fromEntity parent := by
    rw [isNameIn, List.any_cons, List.any_nil, Bool.or_false, Text.eqIgnoreCase_comm]
  rw [check_eq_ok, checkAll_eq_ok_iff, hangsFrom_iff, hfrom]
  rfl

/-! ### Compiled joins -/

/-- A pair is turned so that it starts from a parent. -/
theorem isNameIn_of_orient {parents : List String} {left right source target : String × String}
    (h : orient parents left right = .ok (source, target)) : isNameIn parents source.1 = true := by
  unfold orient at h
  split at h
  · rename_i hleft
    cases h
    exact hleft
  · split at h
    · rename_i hright
      cases h
      exact hright
    · exact nomatch h

/-- The head of a link joins the two sides of a pair, turned so that the linking one comes first. -/
theorem head_eq_ok {catalog : Catalog} {parents : List String} {members : List (String × Json)}
    {l : Link} (h : head catalog parents members = .ok l) :
    ∃ pair left right, pairOf members = .ok pair ∧
      splitQualified pair.1 "the join key" = .ok left ∧
      splitQualified pair.2 "the join target" = .ok right ∧
      orient parents left right = .ok ((l.fromEntity, l.fromName), (l.toEntity, l.toName)) := by
  rw [head_eq] at h
  obtain ⟨ends, hsides, h⟩ := Answer.bind_eq_ok.1 h
  obtain ⟨pair, hpair, hsides⟩ := Answer.bind_eq_ok.1 hsides
  obtain ⟨left, hleft, hsides⟩ := Answer.bind_eq_ok.1 hsides
  obtain ⟨right, hright, horient⟩ := Answer.bind_eq_ok.1 hsides
  obtain ⟨type, -, h⟩ := Answer.bind_eq_ok.1 h
  obtain ⟨label, -, h⟩ := Answer.bind_eq_ok.1 h
  obtain ⟨columns, -, h⟩ := Answer.bind_eq_ok.1 h
  obtain ⟨criteria, -, h⟩ := Answer.bind_eq_ok.1 h
  cases h
  exact ⟨pair, left, right, hpair, hleft, hright, horient⟩

/-- **Compiled joins.** A join in loose data that hangs from one of some names is compiled to a link
that does, with all links below it. -/
theorem hangsFrom_ofJson {catalog : Catalog} (parents : List String) (j : Json) {l : Link}
    (h : ofJson catalog parents j = .ok l) : l.HangsFrom parents := by
  induction j using join_induction generalizing parents l with
  | map members ih =>
    obtain ⟨link, links, hhead, hlinks, rfl⟩ := ofJson_eq_ok h
    obtain ⟨_, _, _, -, -, -, horient⟩ := head_eq_ok hhead
    exact .intro (isNameIn_of_orient horient)
      (Answer.forall_of_mapM hlinks fun j hj l hl => ih j hj link.parentNames hl)
  | other j hj =>
    obtain ⟨message, hmessage⟩ := ofJson_of_not_isMap hj
    rw [hmessage] at h
    exact nomatch h

end Link

namespace JoinInput

/-- **Compiled joins pass the check.** The link that a join in loose data is compiled to is compiled
to itself from the same parent: at every depth each link starts from the entity or from the
reference name of the link that it hangs from. -/
theorem compile_native {catalog : Catalog} {parent : String} {j : Json} {l : Link}
    (h : compile catalog parent (.loose j) = .ok l) :
    compile catalog parent (.native l) = .ok l ∧ l.HangsFrom [parent] := by
  have hangs : l.HangsFrom [parent] := Link.hangsFrom_ofJson [parent] j h
  refine ⟨?_, hangs⟩
  rw [compile, Link.check_eq_ok_iff.2 hangs]
  rfl

namespace Sample

/-- The account of a contact, its first contact, and the account of that one. The pairs stand either
way round, and the nested ones start from the label `a` and from the entity of the link above. -/
def accounts : Json :=
  .object [("account.accountid", .string "contact.parentcustomerid"), ("alias", .string "a"),
    ("links", .array
      [.object [("contact.contactid", .string "A.primarycontactid"), ("alias", .string "first"),
        ("links", .object
          [("CONTACT.parentcustomerid", .string "account.accountid"), ("type", .string "outer")])]])]

end Sample

/-- The join is compiled, and the tree of three links that it becomes passes the check. -/
theorem compile_native_accounts :
    ∃ l, compile .empty "contact" (.loose Sample.accounts) = .ok l ∧
      compile .empty "contact" (.native l) = .ok l ∧ l.HangsFrom ["contact"] := by
  have hcompiled : (compile .empty "contact" (.loose Sample.accounts)).toBool = true := by
    decide +kernel
  cases hl : compile .empty "contact" (.loose Sample.accounts) with
  | error e =>
    rw [hl] at hcompiled
    exact nomatch hcompiled
  | ok l => exact ⟨l, rfl, compile_native hl⟩

end JoinInput

end RecordService
