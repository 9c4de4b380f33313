import RecordService.Proofs.Filter.Shape

namespace RecordService

/-!
# Negation does not change what compiles

The compiler pushes negations down to the conditions, which are converted in another form then but
from the same operands and in the same order. So a filter is compiled under both polarities or under
none, and then it fails at the same place.

* `Answer.FailsAlike`: answers that are both results or the same failure, with what keeps them so.
* `Filter.failsAlike_compileNode`: the two polarities of a filter fail alike.
* `Filter.compile_not`: so does the negation of a filter with the filter.
-/

namespace Answer

variable {α α' β β' : Type}

/-- Whether two answers are both results, or the same failure. -/
def FailsAlike (r : Answer α) (r' : Answer α') : Prop :=
  ∀ e, r = .error e ↔ r' = .error e

/-- Two answers that succeed fail alike, as neither of them fails. -/
theorem failsAlike_ok (a : α) (a' : α') : FailsAlike (.ok a) (.ok a') :=
  fun _ => ⟨nofun, nofun⟩

/-- The same failure is told in both answers. -/
theorem failsAlike_error (e : Failure) :
    FailsAlike (.error e : Answer α) (.error e : Answer α') := by
  intro e'
  rw [Except.error.injEq, Except.error.injEq]

/-- An answer fails like itself. -/
theorem FailsAlike.refl (r : Answer α) : FailsAlike r r :=
  fun _ => Iff.rfl

/-- Either both answers succeed, or both fail with the same failure. -/
theorem FailsAlike.cases {r : Answer α} {r' : Answer α'} (h : FailsAlike r r') :
    (∃ a a', r = .ok a ∧ r' = .ok a') ∨ ∃ e, r = .error e ∧ r' = .error e := by
  match r, r' with
  | .error e, r' => exact .inr ⟨e, rfl, (h e).1 rfl⟩
  | .ok a, .error e => exact nomatch (h e).2 rfl
  | .ok a, .ok a' => exact .inl ⟨a, a', rfl, rfl⟩

/-- Answers that fail alike are results together. -/
theorem FailsAlike.exists_ok_iff {r : Answer α} {r' : Answer α'} (h : FailsAlike r r') :
    (∃ a, r = .ok a) ↔ ∃ a', r' = .ok a' := by
  rcases h.cases with ⟨a, a', rfl, rfl⟩ | ⟨e, rfl, rfl⟩
  · exact ⟨fun _ => ⟨a', rfl⟩, fun _ => ⟨a, rfl⟩⟩
  · exact ⟨nofun, nofun⟩

/-- Answers that fail alike and go on alike fail alike. -/
theorem FailsAlike.bind {r : Answer α} {r' : Answer α'} {f : α → Answer β} {f' : α' → Answer β'}
    (h : FailsAlike r r') (hf : ∀ a a', FailsAlike (f a) (f' a')) :
    FailsAlike (r >>= f) (r' >>= f') := by
  rcases h.cases with ⟨a, a', rfl, rfl⟩ | ⟨e, rfl, rfl⟩
  · exact hf a a'
  · exact failsAlike_error e

/-- A computation that goes on without failing fails like what came before it. -/
theorem failsAlike_bind (r : Answer α) {f : α → Answer β} (hf : ∀ a, ∃ b, f a = .ok b) :
    FailsAlike (r >>= f) r := by
  cases r with
  | error e => exact failsAlike_error e
  | ok a =>
    obtain ⟨b, hb⟩ := hf a
    rw [ok_bind, hb]
    exact failsAlike_ok b a

/-- Lists of answers fail alike, at the first place where one fails. -/
theorem FailsAlike.mapM {f : α → Answer β} {f' : α → Answer β'} {as : List α}
    (hf : ∀ a ∈ as, FailsAlike (f a) (f' a)) : FailsAlike (as.mapM f) (as.mapM f') := by
  induction as with
  | nil => exact failsAlike_ok [] []
  | cons a as ih =>
    rw [List.forall_mem_cons] at hf
    rw [List.mapM_cons, List.mapM_cons]
    exact hf.1.bind fun b b' => (ih hf.2).bind fun bs bs' => failsAlike_ok (b :: bs) (b' :: bs')

end Answer

namespace Filter

open Answer

variable {t : Target}

/-! ### Both polarities -/

/-- The operands of a condition are the same under both polarities. -/
theorem failsAlike_condition (t : Target) (name : String) (operator : Operator) (operand : Json)
    (negated negated' : Bool) :
    FailsAlike (t.condition name operator operand negated)
      (t.condition name operator operand negated') := by
  rcases t.condition_eq name operator operand with ⟨c, hc⟩ | ⟨e, he⟩
  · rw [hc, hc]
    exact failsAlike_ok _ _
  · rw [he, he]
    exact failsAlike_error e

/-- Groups without children that say nothing about their number are compiled for an entity that is
known, since no record is without an identity. -/
theorem exists_compileNode_nil (ht : t.IsKnown) {kind : GroupKind}
    (hkind : kind = .and ∨ kind = .or) (negated : Bool) :
    ∃ c, compileNode t (.group kind []) negated = .ok c := by
  obtain ⟨name, hname⟩ := Target.nothing_of_isKnown ht
  rcases hkind with rfl | rfl <;> rw [compileNode, compileAll]
  all_goals
    cases negated with
    | false => exact ⟨_, rfl⟩
    | true => exact ⟨_, hname _⟩

/-- A conjunction or a disjunction fails alike under both polarities if its children do. Without
children it is compiled in another way when it is negated, and never fails. -/
theorem failsAlike_connective (ht : t.IsKnown) {kind : GroupKind} (hkind : kind = .and ∨ kind = .or)
    {children : List Filter}
    (hall : ∀ negated negated',
      FailsAlike (compileAll t children negated) (compileAll t children negated'))
    (negated negated' : Bool) :
    FailsAlike (compileNode t (.group kind children) negated)
      (compileNode t (.group kind children) negated') := by
  by_cases hnil : children = []
  · subst hnil
    obtain ⟨c, hc⟩ := exists_compileNode_nil ht hkind negated
    obtain ⟨c', hc'⟩ := exists_compileNode_nil ht hkind negated'
    rw [hc, hc']
    exact failsAlike_ok c c'
  · have hpresent : ∀ negated, ¬(negated && children.isEmpty) = true := by
      intro negated h
      exact hnil (List.isEmpty_iff.1 (Bool.and_eq_true_iff.1 h).2)
    rcases hkind with rfl | rfl
    all_goals
      rw [compileNode, compileNode, if_neg (hpresent _), if_neg (hpresent _)]
      exact (hall _ _).bind fun _ _ => failsAlike_ok _ _

/-- **Polarities.** A filter for an entity that is known fails alike under both polarities. -/
theorem failsAlike_compileNode (ht : t.IsKnown) (f : Filter) (negated negated' : Bool) :
    FailsAlike (compileNode t f negated) (compileNode t f negated') := by
  induction f using group_induction generalizing negated negated' with
  | condition name operator operand =>
    rw [compileNode, compileNode]
    exact failsAlike_condition t name operator operand negated negated'
  | group kind children ih =>
    have hall : ∀ negated negated',
        FailsAlike (compileAll t children negated) (compileAll t children negated') := by
      intro negated negated'
      rw [compileAll_eq_mapM, compileAll_eq_mapM]
      exact FailsAlike.mapM fun f hf => ih f hf negated negated'
    cases kind
    case and => exact failsAlike_connective ht (.inl rfl) hall negated negated'
    case or => exact failsAlike_connective ht (.inr rfl) hall negated negated'
    case not =>
      rw [compileNode, compileNode]
      split
      · exact FailsAlike.refl _
      · exact (hall _ _).bind fun _ _ => failsAlike_ok _ _
    case xor =>
      -- the children are compiled under one polarity and then under the other
      rw [compileNode, compileNode]
      split
      · exact FailsAlike.refl _
      · exact (hall _ _).bind fun _ _ => (hall _ _).bind fun _ _ => failsAlike_ok _ _

/-! ### Negations -/

/-- Compiling a filter fails as compiling its root does. -/
theorem failsAlike_compile (t : Target) (f : Filter) :
    FailsAlike (compile t f) (compileNode t f false) := by
  rw [compile]
  refine failsAlike_bind _ fun part => ?_
  cases part with
  | condition c => exact ⟨_, rfl⟩
  | group g => exact ⟨_, rfl⟩

/-- A negation is the filter under the other polarity. -/
theorem failsAlike_compileNode_not (t : Target) (f : Filter) :
    FailsAlike (compileNode t (.group .not [f]) false) (compileNode t f true) := by
  rw [compileNode, if_neg (by simp), compileAll_eq_mapM, List.mapM_cons, List.mapM_nil, bind_assoc]
  exact failsAlike_bind _ fun part => ⟨_, rfl⟩

/-- **Negation.** The negation of a filter is compiled if and only if the filter is, for an entity
that is known, and they fail with the same failure. -/
theorem compile_not (ht : t.IsKnown) (f : Filter) :
    ((∃ c, compile t (.group .not [f]) = .ok c) ↔ ∃ c, compile t f = .ok c) ∧
      ∀ e, compile t (.group .not [f]) = .error e ↔ compile t f = .error e := by
  have h : FailsAlike (compile t (.group .not [f])) (compile t f) := by
    intro e
    rw [failsAlike_compile t _ e, failsAlike_compileNode_not t f e,
      failsAlike_compileNode ht f true false e, failsAlike_compile t f e]
  exact ⟨h.exists_ok_iff, h⟩

namespace Sample

/-- Accounts of which exactly one holds, that they earn more than ten or that they go by a nickname,
and all others. -/
def nicknamed : Filter :=
  .group .or
    [.group .xor [.condition "revenue" .greaterThan (.int 10),
      .condition "nickname" .equal (.string "Rob")], .group .and []]

end Sample

/-- Accounts have no nickname, by which the filter and its negation fail. -/
theorem compile_not_nicknamed :
    (Target.ofEntity Sample.account).IsKnown ∧
      ∃ e, compile (.ofEntity Sample.account) Sample.nicknamed = .error e ∧
        compile (.ofEntity Sample.account) (.group .not [Sample.nicknamed]) = .error e := by
  have hknown : (Target.ofEntity Sample.account).IsKnown := .inl rfl
  obtain ⟨e, he⟩ : ∃ e, compile (.ofEntity Sample.account) Sample.nicknamed = .error e := ⟨_, rfl⟩
  exact ⟨hknown, e, he, ((compile_not hknown Sample.nicknamed).2 e).2 he⟩

/-- Of an entity that is not known, only the filter that all records meet can be expressed. -/
example :
    (compile ⟨none, none, none⟩ (.group .and [])).toBool = true ∧
      (compile ⟨none, none, none⟩ (.group .not [.group .and []])).toBool = false :=
  ⟨rfl, rfl⟩

end Filter

end RecordService
