import RecordService.Proofs.Query.ReadBack
import Mathlib.Data.List.Perm.Basic

namespace RecordService

/-!
# The conditions of a query are read back

What is read back of a query has the same conditions in the same places, one for one. Only the
criteria of links are read back without the owners of their conditions, which the dialect does not
write there.

* `Query.subjects`: what the conditions of a query are about, those of its links at any depth
  included.
* `Criteria.conditionsWithin_readBack`, `Link.conditionsWithin_readBack`: the conditions that are
  read back.
* `Query.subjects_ofXml`: the subjects that are read back.
-/

/-! ### Subjects -/

/-- What a condition is about, and how it compares. -/
structure Subject where
  /-- The link that has the attribute; none for the entity that the criteria are about. -/
  owner : Option String
  name : String
  operator : Operator
  deriving DecidableEq, Repr

/-- A subject without its owner. -/
def Subject.unowned (s : Subject) : Subject :=
  { s with owner := none }

/-- The subject of a condition. -/
def Condition.subject (c : Condition) : Subject :=
  ⟨c.owner, c.name, c.operator⟩

namespace Criteria

mutual

/-- The conditions of a tree. -/
def conditionsWithin : Criteria → List Condition
  | ⟨_, conditions, filters⟩ => conditions ++ conditionsWithinAll filters

/-- The conditions of some trees. -/
def conditionsWithinAll : List Criteria → List Condition
  | [] => []
  | f :: fs => f.conditionsWithin ++ conditionsWithinAll fs

end

end Criteria

namespace Link

mutual

/-- The conditions of a link and of those below it. -/
def conditionsWithin : Link → List Condition
  | ⟨_, _, _, _, _, _, criteria, links, _⟩ =>
    criteria.conditionsWithin ++ conditionsWithinAll links

/-- The conditions of some links and of those below them. -/
def conditionsWithinAll : List Link → List Condition
  | [] => []
  | l :: ls => l.conditionsWithin ++ conditionsWithinAll ls

end

end Link

namespace Query

/-- The subjects of the criteria of a query. -/
def criteriaSubjects (q : Query) : List Subject :=
  q.criteria.conditionsWithin.map Condition.subject

/-- The subjects of the criteria of the links of a query. -/
def linkSubjects (q : Query) : List Subject :=
  (Link.conditionsWithinAll q.links).map Condition.subject

/-- The subjects of all conditions of a query. -/
def subjects (q : Query) : List Subject :=
  q.criteriaSubjects ++ q.linkSubjects

end Query

/-! ### Conditions are read back -/

/-- A condition is read back with its subject, but without the owner inside a link. -/
theorem Condition.subject_readBack (inLink : Bool) (c : Condition) :
    (c.readBack inLink).subject = if inLink then c.subject.unowned else c.subject := by
  cases inLink <;> rfl

namespace Criteria

/-- An empty group has no conditions. -/
theorem conditionsWithin_of_isEmpty {f : Criteria} (hf : f.isEmpty = true) :
    f.conditionsWithin = [] := by
  rw [eq_of_isEmpty hf, conditionsWithin, conditionsWithinAll, List.append_nil]

/-- The conditions of some groups are those of each, one after the other. -/
theorem conditionsWithinAll_eq (fs : List Criteria) :
    conditionsWithinAll fs = fs.flatMap conditionsWithin := by
  induction fs with
  | nil => rfl
  | cons f fs ih => rw [conditionsWithinAll, ih, List.flatMap_cons]

mutual

/-- **Groups.** The conditions of a group are read back, each in its place. -/
theorem conditionsWithin_readBack (inLink : Bool) (f : Criteria) :
    (f.readBack inLink).conditionsWithin = f.conditionsWithin.map (·.readBack inLink) := by
  match f with
  | ⟨connective, conditions, filters⟩ =>
    rw [readBack, conditionsWithin, conditionsWithin, List.map_append,
      conditionsWithinAll_readBack inLink filters]

/-- The groups that are left out have no conditions. -/
theorem conditionsWithinAll_readBack (inLink : Bool) (fs : List Criteria) :
    conditionsWithinAll (readBackAll inLink fs) =
      (conditionsWithinAll fs).map (·.readBack inLink) := by
  match fs with
  | [] => rfl
  | f :: fs =>
    have hrest := conditionsWithinAll_readBack inLink fs
    rw [readBackAll, conditionsWithinAll]
    cases hf : f.isEmpty with
    | true =>
      rw [if_pos rfl, conditionsWithin_of_isEmpty hf, List.nil_append, hrest]
    | false =>
      rw [if_neg Bool.false_ne_true, conditionsWithinAll, List.map_append, hrest,
        conditionsWithin_readBack inLink f]

end

/-- Criteria that are read into a place that has none keep their conditions. -/
theorem conditionsWithin_always_andAlso (f : Criteria) :
    (always.andAlso f).conditionsWithin = f.conditionsWithin := by
  cases hf : f.isEmpty with
  | true =>
    rw [andAlso_of_isEmpty hf, conditionsWithin_of_isEmpty hf]
    rfl
  | false => rw [always_andAlso hf]

end Criteria

namespace Link

mutual

/-- **Links.** The conditions of a link are read back without their owners. -/
theorem conditionsWithin_readBack (parent : String) (l : Link) :
    (l.readBack parent).conditionsWithin = l.conditionsWithin.map (·.readBack true) := by
  match l with
  | ⟨fromEntity, fromName, toEntity, toName, type, label, criteria, links, columns⟩ =>
    rw [readBack, conditionsWithin, conditionsWithin, List.map_append,
      Criteria.conditionsWithin_always_andAlso, Criteria.conditionsWithin_readBack,
      conditionsWithinAll_readBack (label.getD toEntity) links]

/-- The conditions of some links are read back without their owners. -/
theorem conditionsWithinAll_readBack (parent : String) (ls : List Link) :
    conditionsWithinAll (readBackAll parent ls) =
      (conditionsWithinAll ls).map (·.readBack true) := by
  match ls with
  | [] => rfl
  | l :: ls =>
    rw [readBackAll, conditionsWithinAll, conditionsWithinAll, List.map_append,
      conditionsWithin_readBack parent l, conditionsWithinAll_readBack parent ls]

end

end Link

/-! ### Queries -/

namespace Query

/-- The criteria of a query are read back with all their subjects. -/
theorem criteriaSubjects_readBack (q : Query) :
    q.readBack.criteriaSubjects = q.criteriaSubjects := by
  have hsubject : Condition.subject ∘ (·.readBack false) = Condition.subject := by
    funext c
    exact c.subject_readBack false
  show (Criteria.always.andAlso (q.criteria.readBack false)).conditionsWithin.map _ = _
  rw [Criteria.conditionsWithin_always_andAlso, Criteria.conditionsWithin_readBack, List.map_map,
    hsubject]
  rfl

/-- The criteria of links are read back with their subjects, without the owners. -/
theorem linkSubjects_readBack (q : Query) :
    q.readBack.linkSubjects = q.linkSubjects.map Subject.unowned := by
  have hsubject : Condition.subject ∘ (·.readBack true) = Subject.unowned ∘ Condition.subject := by
    funext c
    exact c.subject_readBack true
  show (Link.conditionsWithinAll (Link.readBackAll q.entity q.links)).map _ = _
  rw [Link.conditionsWithinAll_readBack, List.map_map, hsubject, ← List.map_map]
  rfl

/-- As a whole the subjects are those of the query if and only if its links have no owners to
lose. -/
theorem perm_subjects_readBack_iff (q : Query) :
    q.readBack.subjects.Perm q.subjects ↔ ∀ s ∈ q.linkSubjects, s.owner = none := by
  rw [subjects, subjects, criteriaSubjects_readBack, linkSubjects_readBack,
    List.perm_append_left_iff]
  constructor
  · intro hperm s hs
    obtain ⟨s', -, rfl⟩ := List.mem_map.1 (hperm.mem_iff.2 hs)
    rfl
  · intro hunowned
    have hsame : q.linkSubjects.map Subject.unowned = q.linkSubjects := by
      refine (List.map_congr_left fun s hs => ?_).trans (List.map_id _)
      obtain ⟨owner, name, operator⟩ := s
      cases hunowned _ hs
      rfl
    rw [hsame]

/-- **Subjects.** A query is read back from its text with the subjects of its criteria, and with
those of its links at any depth but for their owners. So all subjects are those of the query if and
only if no condition of a link has an owner. -/
theorem subjects_ofXml {q : Query} (h : q.InRange) :
    ∃ q', ofXml q.toXml = .ok q' ∧ ofXml q.toIndentedXml = .ok q' ∧
      q'.criteriaSubjects = q.criteriaSubjects ∧
      q'.linkSubjects = q.linkSubjects.map Subject.unowned ∧
      (q'.subjects.Perm q.subjects ↔ ∀ s ∈ q.linkSubjects, s.owner = none) := by
  obtain ⟨hread, hindented⟩ := ofXml_toXml_of_inRange h
  exact ⟨q.readBack, hread, hindented, q.criteriaSubjects_readBack, q.linkSubjects_readBack,
    q.perm_subjects_readBack_iff⟩

namespace Sample

/-- Contacts of accounts in a group, whose own criteria name the account, as those of the query do
inside a group. -/
def owned : Query :=
  { ofEntity "contact" with
    criteria :=
      ⟨.and, [⟨none, "age", .greaterThan, [.int32 (some 30)]⟩],
        [⟨.or, [⟨some "account", "name", .equal, [.text (some "A & B")]⟩], []⟩]⟩
    links :=
      [⟨"contact", "parent", "account", "id", .inner, none, .always,
        [⟨"account", "group", "team", "id", .leftOuter, some "t",
          .ofConditions [⟨some "account", "name", .null, []⟩], [], []⟩], []⟩] }

/-- A query without a limit and without a page has no numbers to be in range. -/
theorem inRange_owned : owned.InRange :=
  ⟨nofun, nofun⟩

end Sample

/-- The account is read back in the criteria of the query, and is gone in those of the team. -/
theorem subjects_ofXml_owned :
    Sample.owned.InRange ∧
      ∃ q', ofXml Sample.owned.toXml = .ok q' ∧
        q'.criteriaSubjects =
          [⟨none, "age", .greaterThan⟩, ⟨some "account", "name", .equal⟩] ∧
        q'.linkSubjects = [⟨none, "name", .null⟩] := by
  obtain ⟨q', hread, -, hcriteria, hlinks, -⟩ := subjects_ofXml Sample.inRange_owned
  exact ⟨Sample.inRange_owned, q', hread, hcriteria, hlinks⟩

/-- Not all subjects of that query are read back. -/
theorem subjects_ofXml_lost :
    ∃ q', ofXml Sample.owned.toXml = .ok q' ∧ ¬q'.subjects.Perm Sample.owned.subjects := by
  refine ⟨_, (ofXml_toXml_of_inRange Sample.inRange_owned).1, ?_⟩
  rw [perm_subjects_readBack_iff]
  intro hunowned
  exact absurd (hunowned ⟨some "account", "name", .null⟩ List.mem_cons_self) (by decide)

end Query

end RecordService
