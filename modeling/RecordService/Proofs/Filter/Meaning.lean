import RecordService.Evaluation.Row
import RecordService.Filter.Compilation
import RecordService.Proofs.Answer
import RecordService.Proofs.Text.Run

namespace RecordService

/-!
# The meaning of filters

A filter has a meaning of its own, in which a negation is a negation. Criteria have no negation,
so that the compiler pushes it down to the conditions; here it is shown that nothing is lost on
the way.

* `Condition.holdsFor_inverse`: for a value that is no null the inverse operator is the exact
  complement, as long as an operator of order has something to compare.
* `Scope.holds_join`: a compiled group combines what its parts evaluate to.
* `Filter.group_induction`: induction on a filter by the children of its groups.
* `Filter.meaning`: the meaning of a filter, by recursion on its tree.
* `Filter.compileNode_meets`: under either polarity a compiled filter evaluates to the meaning or
  to its negation.
* `Filter.holds_compile`: the criteria of a filter hold exactly where its meaning does.
-/

/-! ### Complements -/

/-- Operators that compare by order, which takes values that are comparable. -/
def Operator.isOrdering : Operator → Bool
  | .greaterThan => true
  | .greaterEqual => true
  | .lessThan => true
  | .lessEqual => true
  | _ => false

namespace Condition

/-- The condition with another operator on the same operand. -/
def withOperator (c : Condition) (o : Operator) : Condition :=
  { c with operator := o }

/-- A condition by order on a value that is no null has a comparison to go by. -/
def Decides (c : Condition) (v : Value) : Prop :=
  c.operator.isOrdering = true → v.isNull = false → (v.compare? c.operand).isSome

end Condition

/-- Two demands on a comparison that exclude each other and leave nothing out are complements
wherever there is a comparison. -/
theorem Value.compares_compl {p q : Ordering → Bool} (hpq : ∀ o, q o = !p o) {v w : Value}
    (h : (v.compare? w).isSome) : v.compares q w = !v.compares p w := by
  obtain ⟨o, ho⟩ := Option.isSome_iff_exists.1 h
  simp only [Value.compares, ho, Option.any_some]
  exact hpq o

namespace Condition

/-- **Exact complement.** On a value that is no null the inverse operator holds exactly where the
operator does not. -/
theorem holdsForNonNull_inverse {c : Condition} {v : Value} (hv : v.isNull = false)
    (hc : c.Decides v) :
    (c.withOperator c.operator.inverse).holdsForNonNull v = !c.holdsForNonNull v := by
  obtain ⟨owner, name, operator, values⟩ := c
  have hsome : operator.isOrdering = true →
      (v.compare? (Condition.operand ⟨owner, name, operator, values⟩)).isSome :=
    fun ho => hc ho hv
  cases operator
  case null => rfl
  case notNull => rfl
  case equal => rfl
  case like => rfl
  case isIn => rfl
  case notEqual => exact (Bool.not_not _).symm
  case notLike => exact (Bool.not_not _).symm
  case notIn => exact (Bool.not_not _).symm
  -- the operators of order, which need the comparison
  all_goals
    refine Value.compares_compl ?_ (hsome rfl)
    intro o
    cases o <;> rfl

/-- A negated condition is the inverse one or a test for null, unless it tests for null itself. -/
theorem holdsFor_inverse {c : Condition} {v : Value} (hu : c.operator.isUnary = false)
    (hc : c.Decides v) :
    ((c.withOperator c.operator.inverse).holdsFor v ||
      (Condition.mk c.owner c.name .null []).holdsFor v) = !c.holdsFor v := by
  unfold holdsFor
  by_cases hv : v.isNull = true
  -- a comparison never holds for null, so its negation has to: hence the test for null beside it
  · have hn : (c.operator == .null) = false := by
      cases ho : c.operator <;> simp_all [Operator.isUnary]
    simp [hv, hn]
  · rw [Bool.not_eq_true] at hv
    simp only [hv, Bool.false_eq_true, if_false, holdsForNonNull_inverse hv hc]
    simp [holdsForNonNull]

/-- A negated test for null is the other test for null. -/
theorem holdsFor_inverse_unary {c : Condition} {v : Value} (hu : c.operator.isUnary = true) :
    (c.withOperator c.operator.inverse).holdsFor v = !c.holdsFor v := by
  obtain ⟨owner, name, operator, values⟩ := c
  cases operator
  case null => by_cases hv : v.isNull = true <;> simp [holdsFor, withOperator, Operator.inverse,
    holdsForNonNull, hv]
  case notNull => by_cases hv : v.isNull = true <;> simp [holdsFor, withOperator,
    Operator.inverse, holdsForNonNull, hv]
  all_goals exact absurd hu Bool.false_ne_true

end Condition

/-! ### Compiled groups -/

namespace Scope

open RecordService.Filter (Compiled)

/-- Whether a compiled filter holds. -/
def meetsPart (s : Scope) : Compiled → Bool
  | .condition c => s.meets c
  | .group f => s.holds f

/-- All criteria hold if each of them does. -/
theorem allHold_eq_all (s : Scope) (fs : List Criteria) : s.allHold fs = fs.all s.holds := by
  induction fs with
  | nil => rfl
  | cons f fs ih => rw [allHold, ih, List.all_cons]

/-- Any criteria hold if one of them does. -/
theorem anyHolds_eq_any (s : Scope) (fs : List Criteria) : s.anyHolds fs = fs.any s.holds := by
  induction fs with
  | nil => rfl
  | cons f fs ih => rw [anyHolds, ih, List.any_cons]

/-- Sorting the parts of a group into conditions and groups changes nothing about a
conjunction. -/
theorem all_parts (s : Scope) (parts : List Compiled) :
    ((Compiled.conditions parts).all s.meets && (Compiled.groups parts).all s.holds) =
      parts.all s.meetsPart := by
  induction parts with
  | nil => rfl
  | cons part parts ih =>
    rw [List.all_cons, ← ih]
    cases part with
    | condition c =>
      show ((s.meets c && (Compiled.conditions parts).all s.meets) && _) = _
      rw [Bool.and_assoc]
      rfl
    | group f =>
      show (_ && (s.holds f && (Compiled.groups parts).all s.holds)) = _
      rw [Bool.and_left_comm]
      rfl

/-- Nor about a disjunction. -/
theorem any_parts (s : Scope) (parts : List Compiled) :
    ((Compiled.conditions parts).any s.meets || (Compiled.groups parts).any s.holds) =
      parts.any s.meetsPart := by
  induction parts with
  | nil => rfl
  | cons part parts ih =>
    rw [List.any_cons, ← ih]
    cases part with
    | condition c =>
      show ((s.meets c || (Compiled.conditions parts).any s.meets) || _) = _
      rw [Bool.or_assoc]
      rfl
    | group f =>
      show (_ || (s.holds f || (Compiled.groups parts).any s.holds)) = _
      rw [Bool.or_left_comm]
      rfl

/-- A compiled group has no members exactly if it has no parts. -/
theorem isEmpty_parts (parts : List Compiled) :
    ((Compiled.conditions parts).isEmpty && (Compiled.groups parts).isEmpty) = parts.isEmpty := by
  cases parts with
  | nil => rfl
  | cons part parts => cases part <;> simp [Compiled.conditions, Compiled.groups]

/-- What a group of parts evaluates to. -/
def combine : Connective → List Bool → Bool
  | .and, bs => bs.all id
  | .or, bs => bs.isEmpty || bs.any id

/-- **Groups.** A compiled group combines what its parts evaluate to. -/
theorem holds_join (s : Scope) (connective : Connective) (parts : List Compiled) :
    s.holds (Compiled.join connective parts) = combine connective (parts.map s.meetsPart) := by
  cases connective with
  | and =>
    rw [Compiled.join, holds, allHold_eq_all, all_parts, combine, List.all_map]
    rfl
  | or =>
    rw [Compiled.join, holds, anyHolds_eq_any, Bool.or_assoc, any_parts, isEmpty_parts, combine,
      List.any_map, List.isEmpty_map]
    rfl

/-- A group combines what its conditions and its groups evaluate to. -/
theorem holds_group (s : Scope) (connective : Connective) (conditions : List Condition)
    (fs : List Criteria) :
    s.holds ⟨connective, conditions, fs⟩ =
      combine connective (conditions.map s.meets ++ fs.map s.holds) := by
  have hjoin : Compiled.join connective (conditions.map .condition ++ fs.map .group) =
      ⟨connective, conditions, fs⟩ := by
    simp only [Compiled.join, Compiled.conditions, Compiled.groups, List.filterMap_append,
      List.filterMap_map, Function.comp_def, List.filterMap_some, Criteria.mk.injEq,
      List.append_right_eq_self, List.append_left_eq_self, List.filterMap_eq_nil_iff,
      implies_true, and_self]
  rw [← hjoin, holds_join, List.map_append, List.map_map, List.map_map]
  rfl

/-- A group of groups combines what its groups evaluate to. -/
theorem holds_groups (s : Scope) (connective : Connective) (fs : List Criteria) :
    s.holds ⟨connective, [], fs⟩ = combine connective (fs.map s.holds) :=
  s.holds_group connective [] fs

end Scope

/-! ### Trees of filters -/

/-- What conditions have, and what a group has if its children do, is true of all filters. -/
@[elab_as_elim]
theorem Filter.group_induction {motive : Filter → Prop}
    (condition : ∀ name operator operand, motive (.condition name operator operand))
    (group : ∀ kind children, (∀ f ∈ children, motive f) → motive (.group kind children))
    (f : Filter) : motive f := by
  -- the recursor goes through the list of children too, of which each has the property
  refine @Filter.rec motive (fun fs => ∀ f ∈ fs, motive f) condition group ?_ ?_ f
  · exact List.forall_mem_nil _
  · intro f fs hf hfs
    exact List.forall_mem_cons.2 ⟨hf, hfs⟩

/-! ### Meanings -/

/-- What a group means by what its children mean. The empty conjunction and the empty disjunction
both hold. -/
def GroupKind.combine : GroupKind → List Bool → Bool
  | .and, bs => bs.all id
  | .or, bs => bs.isEmpty || bs.any id
  | .not, bs => !bs.all id
  | .xor, bs => bs.foldr Bool.xor false

namespace Filter

/-- What is known where only the metadata of an entity are given. -/
def Target.ofEntity (e : Entity) : Target :=
  ⟨some e, none, none⟩

/-- A condition means what it evaluates to when it is compiled on its own. -/
def conditionMeaning (t : Target) (s : Scope) (name : String) (operator : Operator)
    (operand : Json) : Bool :=
  match compile t (.condition name operator operand) with
  | .ok f => s.holds f
  | .error _ => false

mutual

/-- The meaning of a filter: whether it holds, negation being negation. -/
def meaning (t : Target) (s : Scope) : Filter → Bool
  | .condition name operator operand => conditionMeaning t s name operator operand
  | .group kind children => kind.combine (meanings t s children)

/-- The meanings of some filters. -/
def meanings (t : Target) (s : Scope) : List Filter → List Bool
  | [] => []
  | f :: fs => meaning t s f :: meanings t s fs

end

mutual

/-- Every condition of a filter that compares by order decides on the value that it reads. -/
def Decides (t : Target) (s : Scope) : Filter → Prop
  | .condition name operator operand =>
    ∀ c, t.condition name operator operand false = .ok (.condition c) →
      c.Decides (s.value c.owner c.name)
  | .group _ children => AllDecide t s children

/-- So does every condition of some filters. -/
def AllDecide (t : Target) (s : Scope) : List Filter → Prop
  | [] => True
  | f :: fs => Decides t s f ∧ AllDecide t s fs

end

/-! ### Compiled conditions -/

/-- A name without a point has no owner. -/
theorem splitOwner_of_not_mem {name : String} (h : '.' ∉ name.toList) :
    splitOwner name = (none, name) := by
  have hspan : name.toList.span (· != '.') = (name.toList, []) :=
    Text.span_of_forall fun c hc => bne_iff_ne.2 fun heq => h (heq ▸ hc)
  rw [splitOwner, hspan]

/-- What a condition becomes under a polarity. -/
def Compiled.ofCondition (c : Condition) (negated : Bool) : Compiled :=
  if !negated then .condition c
  else if c.operator.isUnary then .condition (c.withOperator c.operator.inverse)
  else .group ⟨.or, [c.withOperator c.operator.inverse, ⟨c.owner, c.name, .null, []⟩], []⟩

/-- Compiling a condition makes one condition, whatever the polarity, and the polarity decides
what becomes of it. -/
theorem Target.condition_eq (t : Target) (name : String) (operator : Operator) (operand : Json) :
    (∃ c, ∀ negated, t.condition name operator operand negated =
      .ok (Compiled.ofCondition c negated)) ∨
    ∃ e, ∀ negated, t.condition name operator operand negated = .error e := by
  unfold Target.condition
  obtain ⟨owner?, field⟩ := splitOwner name
  dsimp only
  cases Target.operands field operator operand _ with
  | error e => exact .inr ⟨e, fun _ => rfl⟩
  | ok r => exact .inl ⟨⟨owner? <|> t.owner, field, r.1, r.2⟩, fun _ => rfl⟩

/-- A condition evaluates under a polarity to what it evaluates to, or to the contrary. -/
theorem Scope.meetsPart_ofCondition {s : Scope} {c : Condition}
    (hc : c.Decides (s.value c.owner c.name)) (negated : Bool) :
    s.meetsPart (Compiled.ofCondition c negated) = (s.meets c != negated) := by
  cases negated with
  | false => exact (Bool.bne_false _).symm
  | true =>
    rw [Bool.bne_true]
    by_cases hu : c.operator.isUnary = true
    · have hpart : Compiled.ofCondition c true =
          .condition (c.withOperator c.operator.inverse) := by
        simp [Compiled.ofCondition, hu]
      rw [hpart]
      exact Condition.holdsFor_inverse_unary hu
    · rw [Bool.not_eq_true] at hu
      have hpart : Compiled.ofCondition c true =
          .group ⟨.or, [c.withOperator c.operator.inverse, ⟨c.owner, c.name, .null, []⟩], []⟩ := by
        simp [Compiled.ofCondition, hu]
      rw [hpart, ← show _ = !s.meets c from Condition.holdsFor_inverse hu hc]
      simp [Scope.meetsPart, Scope.holds, Scope.anyHolds, Scope.meets, Condition.withOperator]

/-- The meaning of a condition is what it evaluates to. -/
theorem conditionMeaning_eq {t : Target} {s : Scope} {name : String} {operator : Operator}
    {operand : Json} {c : Condition}
    (h : t.condition name operator operand false = .ok (.condition c)) :
    conditionMeaning t s name operator operand = s.meets c := by
  have hcompile : compile t (.condition name operator operand) =
      .ok (Criteria.ofConditions [c]) := by
    rw [compile, compileNode, h]
    rfl
  rw [conditionMeaning, hcompile]
  simp [Criteria.ofConditions, Scope.holds, Scope.allHold]

/-! ### Compiled filters -/

/-- Filters are compiled one after the other. -/
theorem compileAll_eq_mapM (t : Target) (fs : List Filter) (negated : Bool) :
    compileAll t fs negated = fs.mapM fun f => compileNode t f negated := by
  induction fs with
  | nil =>
    rw [compileAll, List.mapM_nil]
    rfl
  | cons f fs ih => rw [compileAll, List.mapM_cons, ih]

theorem length_meanings (t : Target) (s : Scope) (fs : List Filter) :
    (meanings t s fs).length = fs.length := by
  induction fs with
  | nil => rfl
  | cons f fs ih => rw [meanings, List.length_cons, List.length_cons, ih]

/-- De Morgan: a group under a polarity combines its children under that polarity. The groups
without children are left out, since the dual of what holds without children does so too. -/
theorem combine_polarized {bs : List Bool} {negated : Bool} (h : negated = true → bs ≠ []) :
    Scope.combine (polarized .and negated) (bs.map (· != negated)) =
        (GroupKind.and.combine bs != negated) ∧
      Scope.combine (polarized .or negated) (bs.map (· != negated)) =
        (GroupKind.or.combine bs != negated) := by
  cases negated with
  | false => simp [polarized, Scope.combine, GroupKind.combine]
  | true =>
    have hbs : bs.isEmpty = false := by
      rw [List.isEmpty_eq_false_iff]
      exact h rfl
    constructor
    · simp [polarized, Connective.dual, Scope.combine, GroupKind.combine, hbs,
        List.any_map, List.not_all_eq_any_not]
    · simp [polarized, Connective.dual, Scope.combine, GroupKind.combine, hbs,
        List.all_map, List.not_any_eq_all_not]

/-- Exactly one of two filters: one of them and not both, under either polarity. -/
theorem combine_xor (x y negated : Bool) :
    Scope.combine (polarized .and negated)
        [Scope.combine (polarized .or negated) ([x, y].map (· != negated)),
          Scope.combine (polarized .or negated) ([x, y].map (· != !negated))] =
      (GroupKind.xor.combine [x, y] != negated) := by
  cases negated <;> cases x <;> cases y <;> rfl

/-- What stands for no record holds nowhere. -/
def Target.NothingIn (t : Target) (s : Scope) : Prop :=
  ∀ kind c, t.nothing kind = .ok c → s.meetsPart c = false

section

variable {t : Target} {s : Scope}

/-- The negation of a group without children holds nowhere, as what it is compiled to. -/
theorem nothing_meets (hn : t.NothingIn s) {kind : GroupKind} {children : List Filter}
    {negated : Bool} {c : Compiled} (he : (negated && children.isEmpty) = true)
    (h : t.nothing kind = .ok c) (hk : kind.combine [] = true) :
    s.meetsPart c = (meaning t s (.group kind children) != negated) := by
  obtain ⟨hneg, hchildren⟩ := Bool.and_eq_true_iff.1 he
  rw [hn kind c h, meaning, List.isEmpty_iff.1 hchildren, meanings, hk, hneg]
  rfl

theorem meanings_ne_nil {children : List Filter} {negated : Bool}
    (he : ¬(negated && children.isEmpty) = true) (hneg : negated = true) :
    meanings t s children ≠ [] := by
  intro hnil
  have hlen := length_meanings t s children
  rw [hnil, List.length_nil] at hlen
  exact he (by rw [hneg, List.length_eq_zero_iff.1 hlen.symm]; rfl)

/-- A group compiles as soon as its children do. -/
theorem join_of_ok {connective : Connective} {fs : List Filter} {negated : Bool} {c : Compiled}
    (h : (do return .group (Compiled.join connective (← compileAll t fs negated)) :
      Answer Compiled) = .ok c) :
    ∃ parts, compileAll t fs negated = .ok parts ∧ .group (Compiled.join connective parts) = c := by
  obtain ⟨parts, hp, h⟩ := Answer.bind_eq_ok.1 h
  exact ⟨parts, hp, Except.ok.inj h⟩

mutual

/-- **Polarity.** Under either polarity a compiled filter evaluates to its meaning or to the
contrary of it. -/
theorem compileNode_meets (hn : t.NothingIn s) (f : Filter) (negated : Bool) (hd : Decides t s f)
    {c : Compiled} (h : compileNode t f negated = .ok c) :
    s.meetsPart c = (meaning t s f != negated) := by
  match f with
  | .condition name operator operand =>
    rw [compileNode] at h
    rcases t.condition_eq name operator operand with ⟨c₀, hc₀⟩ | ⟨e, he⟩
    · have hpart : c = Compiled.ofCondition c₀ negated :=
        Except.ok.inj (h.symm.trans (hc₀ negated))
      rw [hpart, Scope.meetsPart_ofCondition (hd c₀ (hc₀ false)), meaning,
        conditionMeaning_eq (hc₀ false)]
    · rw [he] at h
      exact nomatch h
  | .group kind children =>
    -- both polarities of the children are needed, a negation turning one into the other
    have ih : ∀ negated parts, compileAll t children negated = .ok parts →
        parts.map s.meetsPart = (meanings t s children).map (· != negated) :=
      fun negated parts hp => compileAll_meets hn children negated hd hp
    cases kind <;> rw [compileNode] at h
    case and =>
      by_cases he : (negated && children.isEmpty) = true
      · exact nothing_meets hn he (by rwa [if_pos he] at h) rfl
      · rw [if_neg he] at h
        obtain ⟨parts, hp, rfl⟩ := join_of_ok h
        rw [Scope.meetsPart, Scope.holds_join, ih negated parts hp, meaning]
        exact (combine_polarized (meanings_ne_nil he)).1
    case or =>
      by_cases he : (negated && children.isEmpty) = true
      · exact nothing_meets hn he (by rwa [if_pos he] at h) rfl
      · rw [if_neg he] at h
        obtain ⟨parts, hp, rfl⟩ := join_of_ok h
        rw [Scope.meetsPart, Scope.holds_join, ih negated parts hp, meaning]
        exact (combine_polarized (meanings_ne_nil he)).2
    case not =>
      by_cases he : children.isEmpty = true
      · rw [if_pos he] at h
        exact nomatch h
      · rw [if_neg he] at h
        obtain ⟨parts, hp, rfl⟩ := join_of_ok h
        -- a negation has children, so that the group it becomes is never empty
        have hne : (!negated) = true → meanings t s children ≠ [] :=
          meanings_ne_nil fun hboth => he (Bool.and_eq_true_iff.1 hboth).2
        rw [Scope.meetsPart, Scope.holds_join, ih _ parts hp, (combine_polarized hne).1, meaning]
        simp [GroupKind.combine]
    case xor =>
      by_cases he : children.length ≠ 2
      · rw [if_pos he] at h
        exact nomatch h
      · rw [if_neg he] at h
        obtain ⟨a, b, rfl⟩ : ∃ a b, children = [a, b] := by
          match children, Decidable.not_not.1 he with
          | [a, b], _ => exact ⟨a, b, rfl⟩
        -- the children are compiled twice, once under each polarity
        obtain ⟨one, hone, h⟩ := Answer.bind_eq_ok.1 h
        obtain ⟨other, hother, h⟩ := Answer.bind_eq_ok.1 h
        cases h
        rw [Scope.meetsPart, Scope.holds_groups, List.map_cons, List.map_cons, List.map_nil,
          Scope.holds_join, Scope.holds_join, ih _ one hone, ih _ other hother, meaning]
        exact combine_xor (meaning t s a) (meaning t s b) negated

/-- So do compiled filters, each for itself. -/
theorem compileAll_meets (hn : t.NothingIn s) (fs : List Filter) (negated : Bool)
    (hd : AllDecide t s fs) {parts : List Compiled} (h : compileAll t fs negated = .ok parts) :
    parts.map s.meetsPart = (meanings t s fs).map (· != negated) := by
  match fs with
  | [] =>
    rw [compileAll] at h
    cases h
    rfl
  | f :: fs =>
    rw [compileAll] at h
    obtain ⟨first, hf, h⟩ := Answer.bind_eq_ok.1 h
    obtain ⟨rest, hfs, h⟩ := Answer.bind_eq_ok.1 h
    cases h
    rw [List.map_cons, meanings, List.map_cons, compileNode_meets hn f negated hd.1 hf,
      compileAll_meets hn fs negated hd.2 hfs]

end

end

/-! ### Criteria of filters -/

/-- A record with an identity is not without one. -/
theorem Target.nothingIn_ofEntity {e : Entity} {s : Scope}
    (he : s.tables.catalog.entity? s.current.entity = some e) (hid : s.current.id.isSome) :
    (Target.ofEntity e).NothingIn s := by
  intro kind c hc
  obtain ⟨id, hid⟩ := Option.isSome_iff_exists.1 hid
  have hvalue : s.value none e.primaryId = .uuid (some id) := by
    simp only [Scope.value, Scope.owner?, he, Record.valueOf, Record.primaryId, Option.map_some,
      Option.getD_some, Text.eqIgnoreCase_self, if_true, hid]
  cases hc
  show (Condition.mk none e.primaryId .null []).holdsFor (s.value none e.primaryId) = false
  rw [hvalue]
  rfl

/-- **The compiler keeps the meaning.** The criteria of a filter hold on a row, seen from a record
of the entity, exactly where the filter does. -/
theorem holds_compile {e : Entity} {s : Scope} {f : Filter} {c : Criteria}
    (hc : compile (.ofEntity e) f = .ok c)
    (he : s.tables.catalog.entity? s.current.entity = some e)
    (hid : s.current.id.isSome)
    (hd : Decides (.ofEntity e) s f) :
    s.holds c = meaning (.ofEntity e) s f := by
  have hn := Target.nothingIn_ofEntity he hid
  rw [compile] at hc
  obtain ⟨part, hnode, hc⟩ := Answer.bind_eq_ok.1 hc
  have hpart := compileNode_meets hn f false hd hnode
  rw [Bool.bne_false] at hpart
  cases part with
  | condition condition =>
    -- a condition on its own becomes a conjunction of one
    cases hc
    rw [← hpart]
    simp [Criteria.ofConditions, Scope.holds, Scope.allHold, Scope.meetsPart]
  | group group =>
    cases hc
    exact hpart

/-- A condition decides if the condition that it becomes does. -/
theorem decides_condition {t : Target} {s : Scope} {name : String} {operator : Operator}
    {operand : Json} {c : Condition}
    (h : t.condition name operator operand false = .ok (.condition c))
    (hd : c.Decides (s.value c.owner c.name)) :
    Decides t s (.condition name operator operand) := by
  intro c' hc'
  cases h.symm.trans hc'
  exact hd

namespace Sample

/-- Accounts with a whole number for their revenue. -/
def account : Entity :=
  (Entity.ofName "account").declare (.ofType "revenue" .integer)

/-- An account with a revenue of twelve. -/
def twelve : Record :=
  ((Record.ofEntity "account").withId (Uuid.numbered 1)).set "revenue" (.int32 (some 12))

/-- The account in a row whose link to a contact found none. -/
def scope : Scope :=
  ⟨.ofCatalog (Catalog.empty.insert account), ⟨twelve, [("contact", none)]⟩, twelve⟩

/-- The negation of exactly one of two filters, the second of them the negation of an empty
disjunction, together with a condition on the contact. -/
def nested : Filter :=
  .group .not
    [.group .xor [.condition "revenue" .greaterThan (.int 10), .group .not [.group .or []]],
      .condition "contact.name" .equal (.string "Ada")]

end Sample

/-- The nested filter holds on the account, as a filter and compiled. -/
theorem holds_compile_nested :
    Sample.scope.tables.catalog.entity? Sample.scope.current.entity = some Sample.account ∧
      ∃ c, compile (.ofEntity Sample.account) Sample.nested = .ok c ∧
        Sample.scope.holds c = meaning (.ofEntity Sample.account) Sample.scope Sample.nested ∧
        Sample.scope.holds c = true := by
  have he : Sample.scope.tables.catalog.entity? Sample.scope.current.entity =
      some Sample.account := by decide +kernel
  obtain ⟨c, hc⟩ : ∃ c, compile (.ofEntity Sample.account) Sample.nested = .ok c := ⟨_, rfl⟩
  let greater : Condition := ⟨none, "revenue", .greaterThan, [.int32 (some 10)]⟩
  let equal : Condition := ⟨some "contact", "name", .equal, [.text (some "Ada")]⟩
  have hgreater : Decides (.ofEntity Sample.account) Sample.scope
      (.condition "revenue" .greaterThan (.int 10)) :=
    decides_condition (c := greater) rfl fun _ _ => by decide +kernel
  have hequal : Decides (.ofEntity Sample.account) Sample.scope
      (.condition "contact.name" .equal (.string "Ada")) :=
    decides_condition (c := equal) rfl fun ho _ => absurd ho (by decide)
  have hd : Decides (.ofEntity Sample.account) Sample.scope Sample.nested :=
    ⟨⟨hgreater, ⟨trivial, trivial⟩, trivial⟩, hequal, trivial⟩
  have h := holds_compile hc he rfl hd
  have hmeaning : meaning (.ofEntity Sample.account) Sample.scope Sample.nested = true := by
    decide +kernel
  exact ⟨he, c, hc, h, h.trans hmeaning⟩

end Filter

end RecordService
