import RecordService.Proofs.Filter.Meaning
import RecordService.Proofs.Query.ReadBack

namespace RecordService

/-!
# The conjunction of criteria

Criteria are joined without a group of their own where one can be spared: an empty side is dropped,
and an `and` on the left takes the right side in. Only an `or` on the left is wrapped, since it
would take the right side as one alternative more. The reader of queries joins all filters of an
entity in this way.

* `Criteria.andAlso_cases`: the shapes that a conjunction can have.
* `Scope.holds_andAlso`, `Criteria.conditionCount_andAlso`: where it holds, and its conditions.
* `Criteria.holds_andAlso_iff`: both together.
* `Query.holds_ofChildren`: where the criteria of a query hold that is read from its filters.
-/

namespace Criteria

/-- The shapes of a conjunction. Each side may be dropped if it is empty; otherwise the left side is
taken apart if it is an `and`, and kept as it is if it is an `or`. -/
theorem andAlso_cases (f g : Criteria) :
    g.isEmpty = true ∧ f.andAlso g = f ∨
      f.isEmpty = true ∧ f.andAlso g = g ∨
      (∃ conditions filters, f = ⟨.and, conditions, filters⟩ ∧
        f.andAlso g = ⟨.and, conditions, filters ++ [g]⟩) ∨
      f.andAlso g = ⟨.and, [], [f, g]⟩ := by
  obtain ⟨connective, conditions, filters⟩ := f
  unfold andAlso
  split
  · rename_i hg
    exact .inl ⟨hg, rfl⟩
  · split
    · rename_i hf
      exact .inr (.inl ⟨hf, rfl⟩)
    · cases connective with
      | and => exact .inr (.inr (.inl ⟨conditions, filters, rfl, rfl⟩))
      | or => exact .inr (.inr (.inr rfl))

/-! ### The number of conditions -/

theorem conditionCountAll_eq_sum (fs : List Criteria) :
    conditionCountAll fs = (fs.map conditionCount).sum := by
  induction fs with
  | nil => rfl
  | cons f fs ih => rw [conditionCountAll, ih, List.map_cons, List.sum_cons]

theorem conditionCount_of_isEmpty {f : Criteria} (hf : f.isEmpty = true) :
    f.conditionCount = 0 := by
  rw [eq_of_isEmpty hf, conditionCount, conditionCountAll, List.length_nil]

/-- No condition is lost in a conjunction, and none is made twice. -/
theorem conditionCount_andAlso (f g : Criteria) :
    (f.andAlso g).conditionCount = f.conditionCount + g.conditionCount := by
  rcases f.andAlso_cases g with ⟨hg, h⟩ | ⟨hf, h⟩ | ⟨conditions, filters, rfl, h⟩ | h
  · rw [h, conditionCount_of_isEmpty hg, Nat.add_zero]
  · rw [h, conditionCount_of_isEmpty hf, Nat.zero_add]
  · rw [h, conditionCount, conditionCount, conditionCountAll_eq_sum, conditionCountAll_eq_sum,
      List.map_append, List.sum_append, List.map_singleton, List.sum_singleton, Nat.add_assoc]
  · rw [h, conditionCount, List.length_nil, Nat.zero_add, conditionCountAll_eq_sum, List.map_cons,
      List.map_singleton, List.sum_cons, List.sum_singleton]

end Criteria

/-! ### Where a conjunction holds -/

namespace Scope

variable (s : Scope)

/-- An empty group holds everywhere, whatever its connective. -/
theorem holds_of_isEmpty {f : Criteria} (hf : f.isEmpty = true) : s.holds f = true := by
  rw [Criteria.eq_of_isEmpty hf]
  cases f.connective <;> rfl

/-- A conjunction holds where both sides hold. -/
theorem holds_andAlso (f g : Criteria) : s.holds (f.andAlso g) = (s.holds f && s.holds g) := by
  rcases f.andAlso_cases g with ⟨hg, h⟩ | ⟨hf, h⟩ | ⟨conditions, filters, rfl, h⟩ | h
  · rw [h, s.holds_of_isEmpty hg, Bool.and_true]
  · rw [h, s.holds_of_isEmpty hf, Bool.true_and]
  · rw [h, holds, holds, allHold_eq_all, allHold_eq_all, List.all_append, List.all_cons,
      List.all_nil, Bool.and_true, Bool.and_assoc]
  · rw [h, holds, allHold_eq_all, List.all_cons, List.all_cons, List.all_nil, List.all_nil,
      Bool.and_true, Bool.true_and]

/-- So does the conjunction of several criteria, one added after the other. -/
theorem holds_foldl_andAlso (fs : List Criteria) (f : Criteria) :
    s.holds (fs.foldl Criteria.andAlso f) = (s.holds f && fs.all s.holds) := by
  induction fs generalizing f with
  | nil => rw [List.foldl_nil, List.all_nil, Bool.and_true]
  | cons g fs ih => rw [List.foldl_cons, ih, s.holds_andAlso, List.all_cons, Bool.and_assoc]

end Scope

/-- **Conjunction.** Whatever the connectives of two criteria, and whether or not they are empty,
their conjunction holds exactly where both do, and has the conditions of both. -/
theorem Criteria.holds_andAlso_iff (f g : Criteria) (s : Scope) :
    (s.holds (f.andAlso g) = true ↔ s.holds f = true ∧ s.holds g = true) ∧
      (f.andAlso g).conditionCount = f.conditionCount + g.conditionCount := by
  refine ⟨?_, f.conditionCount_andAlso g⟩
  rw [s.holds_andAlso, Bool.and_eq_true]

/-- An alternative on the left is wrapped, or one side would be enough. -/
example (c d : Condition) :
    (Criteria.mk .or [c] []).andAlso ⟨.or, [d], []⟩ =
      ⟨.and, [], [⟨.or, [c], []⟩, ⟨.or, [d], []⟩]⟩ :=
  rfl

/-! ### Queries that are read -/

namespace Query

/-- The criteria of a query that is read are those that it had and those of the filters among its
children, in their order. -/
theorem criteria_ofChildren {q q' : Query} {es : List Element} (h : ofChildren q es = .ok q') :
    ∃ fs, (es.filter (·.name = "filter")).mapM Criteria.ofElement = .ok fs ∧
      q'.criteria = fs.foldl Criteria.andAlso q.criteria := by
  induction es generalizing q with
  | nil =>
    cases h
    exact ⟨[], rfl, rfl⟩
  | cons e es ih =>
    by_cases hname : e.name = "filter"
    · rw [ofChildren, if_neg (by rw [hname]; decide), if_neg (by rw [hname]; decide),
        if_neg (by rw [hname]; decide), if_pos hname] at h
      obtain ⟨f, hf, h⟩ := Answer.bind_eq_ok.1 h
      obtain ⟨fs, hfs, hcriteria⟩ := ih h
      refine ⟨f :: fs, ?_, hcriteria⟩
      rw [List.filter_cons_of_pos (by simpa using hname), List.mapM_cons, hf, hfs]
      rfl
    · -- all other children leave the criteria as they are
      rw [List.filter_cons_of_neg (by simpa using hname)]
      rw [ofChildren] at h
      split at h
      · obtain ⟨name, -, h⟩ := Answer.bind_eq_ok.1 h
        exact (ih h :)
      · split at h
        · exact ih h
        · split at h
          · obtain ⟨order, -, h⟩ := Answer.bind_eq_ok.1 h
            exact (ih h :)
          · split at h
            · obtain ⟨l, -, h⟩ := Answer.bind_eq_ok.1 h
              exact (ih h :)
            · cases h

/-- **Filters of a query.** The criteria of a query that is read hold where those do that it had
before, and all its filters. -/
theorem holds_ofChildren {q q' : Query} {es : List Element} (h : ofChildren q es = .ok q')
    (s : Scope) :
    ∃ fs, (es.filter (·.name = "filter")).mapM Criteria.ofElement = .ok fs ∧
      s.holds q'.criteria = (s.holds q.criteria && fs.all s.holds) := by
  obtain ⟨fs, hfs, hcriteria⟩ := criteria_ofChildren h
  exact ⟨fs, hfs, by rw [hcriteria, s.holds_foldl_andAlso]⟩

end Query

end RecordService
