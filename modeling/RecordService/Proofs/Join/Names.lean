import RecordService.Proofs.Join.Check
import RecordService.Proofs.Text.Run

namespace RecordService.Link

/-!
# The names in compiled joins

A link is compiled from the parts of two texts, what stands before their first point and what stands
behind it. A part that is missing is a fault of the join. White space around the parts is taken away
only after that has been looked at, so a part that is nothing but white space is taken for a name,
and becomes an empty one.

* `HasParts`: a text with two parts, of each of which something is true.
* `InPairs`: what is true of both sides of every pair in a join.
* `Named`: a link without an empty name, as all those below it.
* `named_iff_of_ofJson`: which joins are compiled to such links.
* `ofJson_named_iff`: that, and the failure of a pair with a part that is missing.
-/

/-! ### Qualified texts -/

/-- A text with a part before its first point and one behind it, both with some property. -/
def HasParts (P : String → Prop) (s : String) : Prop :=
  ∃ entity name, Filter.splitOwner s = (some entity, name) ∧ P entity ∧ P name

/-- The failure of a text that is not qualified. -/
theorem unqualified_eq (s place : String) :
    ∃ message, splitQualified.unqualified s place = invalid message :=
  ⟨_, rfl⟩

/-- The parts of a text are taken if both are there, without the white space around them. -/
theorem splitQualified_cases (s place : String) :
    (∃ entity name, Filter.splitOwner s = (some entity, name) ∧ (entity ≠ "" ∧ name ≠ "") ∧
      splitQualified s place = .ok (Text.trim entity, Text.trim name)) ∨
      ¬HasParts (· ≠ "") s ∧ ∃ message, splitQualified s place = invalid message := by
  unfold splitQualified HasParts
  obtain ⟨owner, name⟩ := Filter.splitOwner s
  cases owner with
  | none => exact .inr ⟨nofun, unqualified_eq s place⟩
  | some entity =>
    dsimp only
    by_cases hparts : entity ≠ "" ∧ name ≠ ""
    · rw [if_neg (by simpa using hparts)]
      exact .inl ⟨entity, name, rfl, hparts, rfl⟩
    · have hmissing : (entity.isEmpty || name.isEmpty) = true := by
        rw [Decidable.not_and_iff_not_or_not] at hparts
        simpa using hparts
      rw [if_pos hmissing]
      refine .inr ⟨?_, unqualified_eq s place⟩
      rintro ⟨_, _, hsplit, hpresent⟩
      cases hsplit
      exact hparts hpresent

/-- Two parts that are there are taken as they are, but for the white space around them. -/
theorem splitQualified_of_present {s entity name : String}
    (hsplit : Filter.splitOwner s = (some entity, name)) (hpresent : entity ≠ "" ∧ name ≠ "")
    (place : String) : splitQualified s place = .ok (Text.trim entity, Text.trim name) := by
  rcases splitQualified_cases s place with ⟨_, _, hsplit', -, hends⟩ | ⟨hmissing, -⟩
  · cases hsplit.symm.trans hsplit'
    exact hends
  · exact absurd ⟨entity, name, hsplit, hpresent⟩ hmissing

/-- The names that are taken from a text are there exactly if both parts are more than white
space. -/
theorem names_of_splitQualified {s place : String} {ends : String × String}
    (h : splitQualified s place = .ok ends) :
    HasParts (· ≠ "") s ∧ ((ends.1 ≠ "" ∧ ends.2 ≠ "") ↔ HasParts Text.IsVisible s) := by
  rcases splitQualified_cases s place with ⟨entity, name, hsplit, hpresent, hends⟩ | ⟨-, _, hfail⟩
  · cases hends.symm.trans h
    refine ⟨⟨entity, name, hsplit, hpresent⟩, ?_⟩
    rw [Text.trim_ne_empty_iff, Text.trim_ne_empty_iff]
    constructor
    · exact fun hvisible => ⟨entity, name, hsplit, hvisible⟩
    · rintro ⟨_, _, hsplit', hvisible⟩
      cases hsplit.symm.trans hsplit'
      exact hvisible
  · exact nomatch hfail.symm.trans h

/-! ### Pairs -/

/-- What is true of both sides of the pair of a join, and of all pairs of the joins in it. -/
inductive InPairs (P : String → Prop) : Json → Prop where
  | intro {members : List (String × Json)} {key target : String}
      (hpair : pairOf members = .ok (key, target)) (hkey : P key) (htarget : P target)
      (hnested : ∀ j ∈ nestedJoins members, InPairs P j) : InPairs P (.object members)

/-- What holds of the pairs of a join holds of its own pair, and of the pairs nested in it. -/
theorem inPairs_iff {P : String → Prop} {members : List (String × Json)} {key target : String}
    (hpair : pairOf members = .ok (key, target)) :
    InPairs P (.object members) ↔
      (P key ∧ P target) ∧ ∀ j ∈ nestedJoins members, InPairs P j := by
  constructor
  · rintro ⟨hpair', hkey, htarget, hnested⟩
    cases hpair.symm.trans hpair'
    exact ⟨⟨hkey, htarget⟩, hnested⟩
  · rintro ⟨⟨hkey, htarget⟩, hnested⟩
    exact .intro hpair hkey htarget hnested

/-- A pair is written either way round. -/
theorem orient_eq_ok {parents : List String} {left right source target : String × String}
    (h : orient parents left right = .ok (source, target)) :
    (source, target) = (left, right) ∨ (source, target) = (right, left) := by
  unfold orient at h
  split at h
  · exact .inl (Except.ok.inj h).symm
  · split at h
    · exact .inr (Except.ok.inj h).symm
    · exact nomatch h

/-! ### Links -/

/-- A link that starts from a name and leads to one, on both sides with a name of an attribute. -/
def HasNames (l : Link) : Prop :=
  (l.fromEntity ≠ "" ∧ l.fromName ≠ "") ∧ l.toEntity ≠ "" ∧ l.toName ≠ ""

/-- A link that has its names, as all links below it have theirs. -/
inductive Named : Link → Prop where
  | intro {l : Link} (hnames : l.HasNames) (hlinks : ∀ child ∈ l.links, Named child) : Named l

/-- A tree of links is named if its root is, and so are the trees below it. -/
theorem named_iff {l : Link} : l.Named ↔ l.HasNames ∧ ∀ child ∈ l.links, child.Named := by
  constructor
  · rintro ⟨hnames, hlinks⟩
    exact ⟨hnames, hlinks⟩
  · rintro ⟨hnames, hlinks⟩
    exact .intro hnames hlinks

variable {catalog : Catalog} {parents : List String} {members : List (String × Json)} {l : Link}

/-- The head of a link has its names if they are more than white space in its pair. -/
theorem hasNames_head (h : head catalog parents members = .ok l) :
    ∃ key target, pairOf members = .ok (key, target) ∧
      (HasParts (· ≠ "") key ∧ HasParts (· ≠ "") target) ∧
      (l.HasNames ↔ HasParts Text.IsVisible key ∧ HasParts Text.IsVisible target) := by
  obtain ⟨⟨key, target⟩, left, right, hpair, hleft, hright, horient⟩ := head_eq_ok h
  obtain ⟨hkey, hleft⟩ := names_of_splitQualified hleft
  obtain ⟨htarget, hright⟩ := names_of_splitQualified hright
  refine ⟨key, target, hpair, ⟨hkey, htarget⟩, ?_⟩
  rw [← hleft, ← hright, HasNames]
  rcases orient_eq_ok horient with hsides | hsides
  · cases hsides
    exact Iff.rfl
  · cases hsides
    exact and_comm

/-- Every pair of a join that is compiled has all its parts. -/
theorem inPairs_of_ofJson {j : Json} (h : ofJson catalog parents j = .ok l) :
    InPairs (HasParts (· ≠ "")) j := by
  induction j using join_induction generalizing parents l with
  | map members ih =>
    obtain ⟨link, links, hhead, hlinks, rfl⟩ := ofJson_eq_ok h
    obtain ⟨key, target, hpair, hparts, -⟩ := hasNames_head hhead
    refine (inPairs_iff hpair).2 ⟨hparts, fun j hj => ?_⟩
    obtain ⟨nested, hnested⟩ := Answer.exists_of_mapM hlinks hj
    exact ih j hj hnested
  | other j hj =>
    obtain ⟨message, hmessage⟩ := ofJson_of_not_isMap hj
    rw [hmessage] at h
    exact nomatch h

/-- **Names.** The links that a join is compiled to have all their names if and only if both parts
of both sides of every pair are more than white space. -/
theorem named_iff_of_ofJson {j : Json} (h : ofJson catalog parents j = .ok l) :
    l.Named ↔ InPairs (HasParts Text.IsVisible) j := by
  induction j using join_induction generalizing parents l with
  | map members ih =>
    obtain ⟨link, links, hhead, hlinks, rfl⟩ := ofJson_eq_ok h
    obtain ⟨key, target, hpair, -, hnames⟩ := hasNames_head hhead
    have hbelow : (∀ child ∈ links, child.Named) ↔
        ∀ j ∈ nestedJoins members, InPairs (HasParts Text.IsVisible) j :=
      Answer.forall_iff_of_mapM hlinks fun j hj nested hnested => ih j hj hnested
    rw [named_iff, inPairs_iff hpair, ← hbelow, ← hnames]
    rfl
  | other j hj =>
    obtain ⟨message, hmessage⟩ := ofJson_of_not_isMap hj
    rw [hmessage] at h
    exact nomatch h

/-- **Missing parts.** A pair of which a part is missing makes no sense, wherever the join
stands. -/
theorem sides_eq_invalid {key target : String} (hpair : pairOf members = .ok (key, target))
    (hmissing : ¬(HasParts (· ≠ "") key ∧ HasParts (· ≠ "") target)) (parents : List String) :
    ∃ message, sides parents members = invalid message := by
  rw [sides_of_pairOf hpair]
  rcases splitQualified_cases key "the join key" with
    ⟨entity, name, hsplit, hpresent, hkey⟩ | ⟨-, message, hkey⟩
  · rcases splitQualified_cases target "the join target" with
      ⟨entity', name', hsplit', hpresent', -⟩ | ⟨-, message, htarget⟩
    · exact absurd ⟨⟨entity, name, hsplit, hpresent⟩, entity', name', hsplit', hpresent'⟩ hmissing
    · refine ⟨message, ?_⟩
      rw [hkey, Answer.ok_bind, htarget]
      rfl
  · refine ⟨message, ?_⟩
    rw [hkey]
    rfl

/-- **The names in compiled joins.** Every pair in a join that is compiled has all its parts, and
the links that the join is compiled to have all their names if and only if no part is just white
space. A join whose pair misses a part makes no sense. -/
theorem ofJson_named_iff (catalog : Catalog) (parents : List String) (j : Json) :
    (∀ l, ofJson catalog parents j = .ok l →
      InPairs (HasParts (· ≠ "")) j ∧ (l.Named ↔ InPairs (HasParts Text.IsVisible) j)) ∧
    ∀ members key target, j = .object members → pairOf members = .ok (key, target) →
      ¬(HasParts (· ≠ "") key ∧ HasParts (· ≠ "") target) →
      ∃ message, ofJson catalog parents j = fail (.invalidJoin message) := by
  constructor
  · intro l h
    exact ⟨inPairs_of_ofJson h, named_iff_of_ofJson h⟩
  · rintro members key target rfl hpair hmissing
    obtain ⟨message, hsides⟩ := sides_eq_invalid hpair hmissing parents
    exact ⟨message, ofJson_eq_invalid hsides⟩

namespace Sample

/-- The account of a contact, and below it a record that is joined to the account by a pair. -/
def below (key target : String) : Json :=
  .object [("account.accountid", .string "contact.parentcustomerid"),
    ("links", .array [.object [(key, .string target)]])]

end Sample

/-- A blank before the point is taken for the name of an entity, and nothing before it is not. -/
theorem ofJson_named_iff_below :
    (∃ l,
      ofJson .empty ["contact"] (Sample.below "account.primarycontactid" " .contactid") = .ok l ∧
      InPairs (HasParts (· ≠ "")) (Sample.below "account.primarycontactid" " .contactid") ∧
      (l.Named ↔ InPairs (HasParts Text.IsVisible)
        (Sample.below "account.primarycontactid" " .contactid"))) ∧
    pairOf [("account.primarycontactid", .string ".contactid")] =
      .ok ("account.primarycontactid", ".contactid") ∧
    ¬(HasParts (· ≠ "") "account.primarycontactid" ∧ HasParts (· ≠ "") ".contactid") ∧
    ∃ message, ofJson .empty ["account"]
      (.object [("account.primarycontactid", .string ".contactid")]) =
        fail (.invalidJoin message) := by
  have hmissing : ¬(HasParts (· ≠ "") "account.primarycontactid" ∧
      HasParts (· ≠ "") ".contactid") := by
    rintro ⟨-, entity, name, hsplit, hentity, -⟩
    cases hsplit
    exact hentity rfl
  refine ⟨?_, rfl, hmissing, ?_⟩
  · have hcompiled : (ofJson .empty ["contact"]
        (Sample.below "account.primarycontactid" " .contactid")).toBool = true := by decide +kernel
    obtain ⟨l, hl⟩ := Answer.exists_of_toBool hcompiled
    exact ⟨l, hl, (ofJson_named_iff .empty ["contact"] _).1 l hl⟩
  · exact (ofJson_named_iff .empty ["account"] _).2 _ _ _ rfl rfl hmissing

/-- A contact is joined to its account by an attribute without a name. -/
theorem ofJson_blank_name :
    ∃ l, JoinInput.compile .empty "contact"
      (.loose (.object [("contact. ", .string "account.accountid")])) = .ok l ∧
      l.fromName = "" ∧ ¬l.Named := by
  refine ⟨⟨"contact", "", "account", "accountid", .inner, none, .always, [], []⟩, rfl, rfl, ?_⟩
  intro hnamed
  exact (named_iff.1 hnamed).1.1.2 rfl

end RecordService.Link
