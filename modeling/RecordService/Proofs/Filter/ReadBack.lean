import RecordService.Proofs.Filter.Complement
import RecordService.Proofs.Filter.Conjunction
import RecordService.Proofs.Query.Conditions

namespace RecordService

/-!
# The meaning of filters that are read back

The criteria of a filter on texts are read back with the same conditions, but without the groups
that are empty. An empty group holds on every row, so a conjunction does not miss it. A disjunction
does: what is read back of it holds only where one of its other members does.

* `Criteria.pruned`: criteria without the empty groups in them.
* `Criteria.hasEmptyAlternative`: whether a disjunction has an empty group beside other members.
* `Scope.holds_of_pruned`, `Scope.holds_pruned`: where pruned criteria hold.
* `Filter.compileNode_trimmed`: the values of a filter on texts that is compiled untyped.
* `Filter.holds_ofXml`: where the criteria that are read back hold.
-/

/-! ### Pruned criteria -/

namespace Criteria

/-- What a group inherits from the groups in it holds of all criteria. -/
@[elab_as_elim]
theorem group_induction {motive : Criteria → Prop}
    (group : ∀ connective conditions filters, (∀ f ∈ filters, motive f) →
      motive ⟨connective, conditions, filters⟩) (f : Criteria) : motive f := by
  -- the recursor goes through the list of groups too, of which each has the property
  refine @Criteria.rec motive (fun fs => ∀ f ∈ fs, motive f) group ?_ ?_ f
  · exact List.forall_mem_nil _
  · intro f fs hf hfs
    exact List.forall_mem_cons.2 ⟨hf, hfs⟩

mutual

/-- Criteria without the empty groups in them. -/
def pruned : Criteria → Criteria
  | ⟨connective, conditions, filters⟩ => ⟨connective, conditions, prunedAll filters⟩

/-- The groups that are not empty, without the empty groups in them. -/
def prunedAll : List Criteria → List Criteria
  | [] => []
  | f :: fs => if f.isEmpty then prunedAll fs else f.pruned :: prunedAll fs

end

mutual

/-- Whether some disjunction has an empty group beside members that are none. -/
def hasEmptyAlternative : Criteria → Bool
  | ⟨connective, conditions, filters⟩ =>
    (connective == .or && filters.any isEmpty && !(conditions.isEmpty && filters.all isEmpty)) ||
      haveEmptyAlternative filters

/-- Whether some disjunction in some criteria has an empty group beside members that are none. -/
def haveEmptyAlternative : List Criteria → Bool
  | [] => false
  | f :: fs => f.hasEmptyAlternative || haveEmptyAlternative fs

end

/-- Some criteria have an empty alternative exactly if one of them has. -/
theorem haveEmptyAlternative_eq (fs : List Criteria) :
    haveEmptyAlternative fs = fs.any hasEmptyAlternative := by
  induction fs with
  | nil => rfl
  | cons f fs ih => rw [haveEmptyAlternative, ih, List.any_cons]

/-- In an empty group there is nothing to leave out. -/
theorem pruned_of_isEmpty {f : Criteria} (hf : f.isEmpty = true) : f.pruned = f := by
  rw [eq_of_isEmpty hf, pruned, prunedAll]

/-- Empty groups are left out, and those that stay are pruned one by one. -/
theorem prunedAll_eq (fs : List Criteria) :
    prunedAll fs = (fs.filter (!·.isEmpty)).map pruned := by
  induction fs with
  | nil => rfl
  | cons f fs ih =>
    rw [prunedAll, ih, List.filter_cons]
    cases f.isEmpty <;> rfl

/-- Of empty groups alone nothing is left. -/
theorem prunedAll_eq_nil_iff {fs : List Criteria} :
    prunedAll fs = [] ↔ ∀ f ∈ fs, f.isEmpty = true := by
  rw [prunedAll_eq, List.map_eq_nil_iff, List.filter_eq_nil_iff]
  simp

/-- Where no group is empty, all are left. -/
theorem prunedAll_eq_map {fs : List Criteria} (h : fs.any isEmpty = false) :
    prunedAll fs = fs.map pruned := by
  rw [List.any_eq_false] at h
  rw [prunedAll_eq, List.filter_eq_self.2]
  intro f hf
  simpa using h f hf

mutual

/-- If every condition is read back as it is, so are the criteria but for the empty groups. -/
theorem readBack_eq_pruned (inLink : Bool) (f : Criteria)
    (h : ∀ c ∈ f.conditionsWithin, c.readBack inLink = c) : f.readBack inLink = f.pruned := by
  match f with
  | ⟨connective, conditions, filters⟩ =>
    rw [conditionsWithin] at h
    have hconditions : conditions.map (·.readBack inLink) = conditions :=
      (List.map_congr_left fun c hc => h c (List.mem_append_left _ hc)).trans (List.map_id _)
    rw [readBack, pruned, hconditions,
      readBackAll_eq_prunedAll inLink filters fun c hc => h c (List.mem_append_right _ hc)]

/-- Groups of conditions that are read back unchanged are pruned, and nothing more. -/
theorem readBackAll_eq_prunedAll (inLink : Bool) (fs : List Criteria)
    (h : ∀ c ∈ conditionsWithinAll fs, c.readBack inLink = c) :
    readBackAll inLink fs = prunedAll fs := by
  match fs with
  | [] => rfl
  | f :: fs =>
    rw [conditionsWithinAll] at h
    rw [readBackAll, prunedAll,
      readBack_eq_pruned inLink f fun c hc => h c (List.mem_append_left _ hc),
      readBackAll_eq_prunedAll inLink fs fun c hc => h c (List.mem_append_right _ hc)]

end

end Criteria

/-! ### Where pruned criteria hold -/

namespace Scope

variable (s : Scope)

/-- Criteria that are read back into a place that has none hold where they do. -/
theorem holds_always_andAlso (f : Criteria) : s.holds (Criteria.always.andAlso f) = s.holds f := by
  have halways : s.holds .always = true := rfl
  rw [s.holds_andAlso, halways, Bool.true_and]

/-- A conjunction does not miss its empty groups. -/
theorem allHold_prunedAll (fs : List Criteria) :
    s.allHold (Criteria.prunedAll fs) = fs.all fun f => s.holds f.pruned := by
  induction fs with
  | nil => rfl
  | cons f fs ih =>
    rw [Criteria.prunedAll, List.all_cons]
    cases hf : f.isEmpty with
    | true =>
      rw [if_pos rfl, ih, Criteria.pruned_of_isEmpty hf, s.holds_of_isEmpty hf, Bool.true_and]
    | false => rw [if_neg Bool.false_ne_true, allHold, ih]

/-- A disjunction of empty groups alone holds. -/
theorem holds_or_of_prunedAll_eq_nil {fs : List Criteria} (h : Criteria.prunedAll fs = []) :
    s.holds ⟨.or, [], fs⟩ = true := by
  cases fs with
  | nil => rfl
  | cons f fs =>
    have hempty : f.isEmpty = true := Criteria.prunedAll_eq_nil_iff.1 h f List.mem_cons_self
    rw [holds, anyHolds, s.holds_of_isEmpty hempty, Bool.true_or, Bool.or_true]

/-- **Pruning narrows.** Criteria hold wherever they do without the empty groups. -/
theorem holds_of_pruned {f : Criteria} (h : s.holds f.pruned = true) : s.holds f = true := by
  induction f using Criteria.group_induction with
  | group connective conditions filters ih =>
    rw [Criteria.pruned] at h
    cases connective with
    | and =>
      rw [holds, allHold_prunedAll, Bool.and_eq_true, List.all_eq_true (l := filters)] at h
      rw [holds, allHold_eq_all, h.1, Bool.true_and, List.all_eq_true]
      exact fun f hf => ih f hf (h.2 f hf)
    | or =>
      rw [holds, Bool.or_eq_true, Bool.or_eq_true] at h
      rcases h with (hnone | hcondition) | hgroup
      · obtain ⟨hconditions, hfilters⟩ := Bool.and_eq_true_iff.1 hnone
        cases List.isEmpty_iff.1 hconditions
        exact s.holds_or_of_prunedAll_eq_nil (List.isEmpty_iff.1 hfilters)
      · rw [holds, hcondition, Bool.or_true, Bool.true_or]
      · -- the group that holds is what is left of one that does
        rw [anyHolds_eq_any, Criteria.prunedAll_eq, List.any_map, List.any_eq_true] at hgroup
        obtain ⟨f, hf, hholds⟩ := hgroup
        have hmem := (List.mem_filter.1 hf).1
        rw [holds, anyHolds_eq_any, List.any_eq_true.2 ⟨f, hmem, ih f hmem hholds⟩, Bool.or_true]

/-- **Pruning is exact without empty alternatives.** Where no disjunction has an empty group beside
other members, the empty groups are not missed. -/
theorem holds_pruned {f : Criteria} (h : f.hasEmptyAlternative = false) :
    s.holds f.pruned = s.holds f := by
  induction f using Criteria.group_induction with
  | group connective conditions filters ih =>
    rw [Criteria.hasEmptyAlternative, Bool.or_eq_false_iff, Criteria.haveEmptyAlternative_eq,
      List.any_eq_false] at h
    obtain ⟨hhere, hbelow⟩ := h
    have hsame : ∀ f ∈ filters, s.holds f.pruned = s.holds f :=
      fun f hf => ih f hf (Bool.eq_false_of_not_eq_true (hbelow f hf))
    rw [Criteria.pruned]
    cases connective with
    | and =>
      have hall : filters.all (fun f => s.holds f.pruned) = filters.all s.holds := by
        rw [Bool.eq_iff_iff, List.all_eq_true, List.all_eq_true]
        exact forall₂_congr fun f hf => by rw [hsame f hf]
      rw [holds, holds, allHold_prunedAll, allHold_eq_all, hall]
    | or =>
      cases hany : filters.any Criteria.isEmpty with
      | true =>
        -- there is nothing but empty groups, of which nothing is left
        rw [hany, beq_self_eq_true, Bool.true_and, Bool.true_and, Bool.not_eq_false',
          Bool.and_eq_true, List.all_eq_true] at hhere
        obtain ⟨hconditions, hempty⟩ := hhere
        have hnil := Criteria.prunedAll_eq_nil_iff.2 hempty
        cases List.isEmpty_iff.1 hconditions
        rw [hnil, s.holds_or_of_prunedAll_eq_nil hnil]
        rfl
      | false =>
        have hholds : (filters.map Criteria.pruned).any s.holds = filters.any s.holds := by
          rw [Bool.eq_iff_iff, List.any_map, List.any_eq_true, List.any_eq_true]
          refine exists_congr fun f => and_congr_right fun hf => ?_
          rw [Function.comp_apply, hsame f hf]
        rw [holds, holds, Criteria.prunedAll_eq_map hany, anyHolds_eq_any, anyHolds_eq_any, hholds,
          List.isEmpty_map]

end Scope

/-! ### Values of filters on texts -/

/-- A text without white space around it. -/
def Value.IsTrimmedText (v : Value) : Prop :=
  ∃ s, v = .text (some s) ∧ Text.trim s = s

/-- A condition whose values are texts without white space around them. -/
def Condition.HasTrimmedTexts (c : Condition) : Prop :=
  ∀ v ∈ c.values, v.IsTrimmedText

/-- Such a condition is read back as it is. -/
theorem Condition.readBack_of_hasTrimmedTexts {c : Condition} (h : c.HasTrimmedTexts) :
    c.readBack false = c := by
  have hvalues : (c.values.map fun v =>
      Value.text (some (if c.listsValues then Text.trim v.xmlText else v.xmlText))) = c.values := by
    refine (List.map_congr_left fun v hv => ?_).trans (List.map_id _)
    obtain ⟨s, rfl, hs⟩ := h v hv
    have htext : (Value.text (some s)).xmlText = s := rfl
    rw [htext, hs, ite_self]
    rfl
  rw [readBack, hvalues]
  rfl

/-- A text in loose data without white space around it. -/
def Json.IsTrimmedText (j : Json) : Prop :=
  ∃ s, j = .string s ∧ Text.trim s = s

/-- The operands of filters on texts: one text, a list of texts, or none. -/
inductive Json.IsTextOperand : Json → Prop where
  | none : IsTextOperand .null
  | one {j : Json} (h : j.IsTrimmedText) : IsTextOperand j
  | list {items : List Json} (h : ∀ item ∈ items, item.IsTrimmedText) :
      IsTextOperand (.array items)

namespace Filter

/-- A filter on texts, none of which has white space around it. -/
inductive HasTextOperands : Filter → Prop where
  | condition {name : String} {operator : Operator} {operand : Json}
      (hoperand : operand.IsTextOperand) : HasTextOperands (.condition name operator operand)
  | group {kind : GroupKind} {children : List Filter}
      (hchildren : ∀ f ∈ children, HasTextOperands f) : HasTextOperands (.group kind children)

/-- What is known where only the name of an entity is given. -/
def Target.named (entity : String) : Target :=
  ⟨none, some entity, none⟩

/-- The conditions of a compiled filter. -/
def Compiled.conditionsWithin : Compiled → List Condition
  | .condition c => [c]
  | .group f => f.conditionsWithin

/-- A compiled filter whose values are texts without white space around them. -/
def Compiled.HasTrimmedTexts (r : Compiled) : Prop :=
  ∀ c ∈ r.conditionsWithin, c.HasTrimmedTexts

namespace Target

/-- A text without white space around it is guessed to be that text. -/
theorem trimmed_of_guess {j : Json} (hj : j.IsTrimmedText) {v : Value} (h : j.guess = .ok v) :
    v.IsTrimmedText := by
  obtain ⟨s, rfl, hs⟩ := hj
  cases h
  exact ⟨s, rfl, hs⟩

/-- Texts without white space around them are guessed one by one. -/
theorem trimmed_of_mapM {items : List Json} (hitems : ∀ item ∈ items, item.IsTrimmedText)
    {values : List Value} (h : items.mapM Json.guess = .ok values) :
    ∀ v ∈ values, v.IsTrimmedText :=
  Answer.forall_of_mapM h fun item hitem _ hv => trimmed_of_guess (hitems item hitem) hv

variable {name : String} {operator operator' : Operator} {operand : Json} {values : List Value}

/-- The items of an operand are texts. -/
theorem trimmed_of_mem_members (hoperand : operand.IsTextOperand) :
    ∀ item ∈ operands.members operand, item.IsTrimmedText := by
  cases hoperand with
  | none => exact List.forall_mem_nil _
  | one h =>
    obtain ⟨s, rfl, hs⟩ := h
    exact List.forall_mem_singleton.2 ⟨s, rfl, hs⟩
  | list h => exact h

/-- A pattern that is read is the text of the operand. -/
theorem trimmed_of_pattern (hoperand : operand.IsTextOperand)
    (h : operands.pattern name operand operator = .ok (operator', values)) :
    ∀ v ∈ values, v.IsTrimmedText := by
  unfold operands.pattern at h
  split at h
  · cases h
    cases hoperand with
    | one htext => exact List.forall_mem_singleton.2 (trimmed_of_guess htext rfl)
  · exact nomatch h

/-- **Operands.** The untyped values of a condition on texts are texts. -/
theorem trimmed_of_operands (hoperand : operand.IsTextOperand)
    (h : operands name operator operand Json.guess = .ok (operator', values)) :
    ∀ v ∈ values, v.IsTrimmedText := by
  unfold operands at h
  split at h
  · cases h
    exact List.forall_mem_nil _
  · cases h
    exact List.forall_mem_nil _
  · obtain ⟨ws, hws, h⟩ := Answer.bind_eq_ok.1 h
    cases h
    exact trimmed_of_mapM (trimmed_of_mem_members hoperand) hws
  · obtain ⟨ws, hws, h⟩ := Answer.bind_eq_ok.1 h
    cases h
    exact trimmed_of_mapM (trimmed_of_mem_members hoperand) hws
  · exact trimmed_of_pattern hoperand h
  · exact trimmed_of_pattern hoperand h
  · split at h
    · exact nomatch h
    · rename_i hlist
      obtain ⟨v, hv, h⟩ := Answer.bind_eq_ok.1 h
      cases hoperand with
      | none =>
        -- a null becomes a test for null, or nothing at all
        cases hv
        rw [if_neg (by decide)] at h
        split at h
        · cases h
          exact List.forall_mem_nil _
        · split at h
          · cases h
            exact List.forall_mem_nil _
          · exact nomatch h
      | one htext =>
        obtain ⟨s, rfl, hs⟩ := trimmed_of_guess htext hv
        cases h
        exact List.forall_mem_singleton.2 ⟨s, rfl, hs⟩
      | list => exact absurd rfl (hlist _)

variable {t : Target}

/-- Without metadata, the value of an operand is guessed from its data. -/
theorem valueFor_of_untyped (ht : t.metadata = none) (isTyped : Bool) (name : String) :
    t.valueFor isTyped name = Json.guess := by
  funext j
  unfold valueFor valueOf
  rw [ht]
  exact ite_self _

/-- The condition that selects nothing has no values, so no texts to trim. -/
theorem trimmed_of_nothing {kind : GroupKind} {r : Compiled} (h : t.nothing kind = .ok r) :
    r.HasTrimmedTexts := by
  unfold nothing at h
  dsimp only at h
  split at h
  · cases h
    exact List.forall_mem_singleton.2 (List.forall_mem_nil _)
  · exact nomatch h

end Target

/-! ### Compiled filters on texts -/

/-- The texts of a condition are those of what is compiled from it. -/
theorem Compiled.trimmed_ofCondition {c : Condition} (hc : c.HasTrimmedTexts) (negated : Bool) :
    (ofCondition c negated).HasTrimmedTexts := by
  have hnull : (Condition.mk c.owner c.name .null []).HasTrimmedTexts := List.forall_mem_nil _
  unfold ofCondition
  split
  · exact List.forall_mem_singleton.2 hc
  · split
    · exact List.forall_mem_singleton.2 hc
    · exact List.forall_mem_cons.2 ⟨hc, List.forall_mem_singleton.2 hnull⟩

/-- A compiled group has the conditions of its parts. -/
theorem Compiled.trimmed_join {connective : Connective} {parts : List Compiled}
    (h : ∀ part ∈ parts, part.HasTrimmedTexts) :
    (group (join connective parts)).HasTrimmedTexts := by
  intro c hc
  rw [conditionsWithin, join, Criteria.conditionsWithin, Criteria.conditionsWithinAll_eq] at hc
  rcases List.mem_append.1 hc with hc | hc
  · obtain ⟨part, hpart, hsome⟩ := List.mem_filterMap.1 hc
    cases part with
    | condition d =>
      cases hsome
      exact h _ hpart c List.mem_cons_self
    | group g => exact nomatch hsome
  · obtain ⟨f, hf, hc⟩ := List.mem_flatMap.1 hc
    obtain ⟨part, hpart, hsome⟩ := List.mem_filterMap.1 hf
    cases part with
    | condition d => exact nomatch hsome
    | group g =>
      cases hsome
      exact h _ hpart c hc

section

variable {t : Target}

/-- **Compiled filters.** The values of a filter on texts that is compiled untyped are its texts,
under either polarity. -/
theorem compileNode_trimmed (ht : t.metadata = none) (f : Filter) (negated : Bool)
    (hf : f.HasTextOperands) {r : Compiled} (h : compileNode t f negated = .ok r) :
    r.HasTrimmedTexts := by
  induction f using group_induction generalizing negated r with
  | condition name operator operand =>
    cases hf with
    | condition hoperand =>
      rw [compileNode] at h
      obtain ⟨operator', values, hvalues, rfl⟩ := Target.condition_eq_ok h
      rw [Target.valueFor_of_untyped ht] at hvalues
      exact Compiled.trimmed_ofCondition (Target.trimmed_of_operands hoperand hvalues) negated
  | group kind children ih =>
    have hchildren : ∀ f ∈ children, f.HasTextOperands := by
      cases hf with
      | group hchildren => exact hchildren
    -- for both polarities, as exactly one of two filters is compiled under either
    have hall : ∀ negated parts, compileAll t children negated = .ok parts →
        ∀ part ∈ parts, part.HasTrimmedTexts := by
      intro negated parts hp
      rw [compileAll_eq_mapM] at hp
      exact Answer.forall_of_mapM hp fun f hf _ hr => ih f hf negated (hchildren f hf) hr
    cases kind <;> rw [compileNode] at h
    case and =>
      split at h
      · exact Target.trimmed_of_nothing h
      · obtain ⟨parts, hp, rfl⟩ := join_of_ok h
        exact Compiled.trimmed_join (hall _ parts hp)
    case or =>
      split at h
      · exact Target.trimmed_of_nothing h
      · obtain ⟨parts, hp, rfl⟩ := join_of_ok h
        exact Compiled.trimmed_join (hall _ parts hp)
    case not =>
      split at h
      · cases h
      · obtain ⟨parts, hp, rfl⟩ := join_of_ok h
        exact Compiled.trimmed_join (hall _ parts hp)
    case xor =>
      split at h
      · cases h
      · -- the children are compiled under both polarities
        obtain ⟨one, hone, h⟩ := Answer.bind_eq_ok.1 h
        obtain ⟨other, hother, h⟩ := Answer.bind_eq_ok.1 h
        cases h
        have hone' : (Compiled.group (Compiled.join (polarized .or negated) one)).HasTrimmedTexts :=
          Compiled.trimmed_join (hall _ one hone)
        have hother' :
            (Compiled.group (Compiled.join (polarized .or negated) other)).HasTrimmedTexts :=
          Compiled.trimmed_join (hall _ other hother)
        exact Compiled.trimmed_join
          (List.forall_mem_cons.2 ⟨hone', List.forall_mem_singleton.2 hother'⟩)

/-- So are the values of the criteria of the filter. -/
theorem compile_trimmed (ht : t.metadata = none) {f : Filter} (hf : f.HasTextOperands)
    {c : Criteria} (h : compile t f = .ok c) :
    ∀ d ∈ c.conditionsWithin, d.HasTrimmedTexts := by
  rw [compile] at h
  obtain ⟨r, hnode, h⟩ := Answer.bind_eq_ok.1 h
  have hr := compileNode_trimmed ht f false hf hnode
  cases r with
  | condition d =>
    cases h
    exact hr
  | group g =>
    cases h
    exact hr

end

/-! ### Where the criteria that are read back hold -/

/-- **Filters that are read back.** Take a query with the criteria of a filter on texts. It is read
back from its text with the same criteria but for the empty groups in them. These hold nowhere that
the criteria of the filter do not, and in the same places unless a disjunction has an empty group
beside other members. -/
theorem holds_ofXml {entity : String} {f : Filter} {c : Criteria} {q : Query}
    (hf : f.HasTextOperands) (hc : compile (.named entity) f = .ok c) (hq : q.InRange)
    (hcriteria : q.criteria = c) :
    ∃ q', Query.ofXml q.toXml = .ok q' ∧ Query.ofXml q.toIndentedXml = .ok q' ∧
      q'.criteria = Criteria.always.andAlso c.pruned ∧
      ∀ s : Scope, s.holds q'.criteria = s.holds c.pruned ∧
        (s.holds q'.criteria = true → s.holds c = true) ∧
        (c.hasEmptyAlternative = false → s.holds q'.criteria = s.holds c) := by
  have htexts := compile_trimmed (t := .named entity) rfl hf hc
  have hpruned : q.criteria.readBack false = c.pruned := by
    rw [hcriteria]
    exact Criteria.readBack_eq_pruned false c fun d hd =>
      Condition.readBack_of_hasTrimmedTexts (htexts d hd)
  obtain ⟨hread, hindented⟩ := Query.ofXml_toXml_of_inRange hq
  have hback : q.readBack.criteria = Criteria.always.andAlso c.pruned :=
    congrArg Criteria.always.andAlso hpruned
  refine ⟨q.readBack, hread, hindented, hback, fun s => ?_⟩
  rw [hback, s.holds_always_andAlso]
  exact ⟨rfl, s.holds_of_pruned, s.holds_pruned⟩

namespace Sample

/-- The condition that the first name is a text. -/
def firstName (s : String) : Filter :=
  .condition "firstname" .equal (.string s)

/-- Two names of which neither is wanted, beside an empty group. -/
def conjunction : Filter :=
  .group .and [.group .and [], .group .not [.group .or [firstName "Rob", firstName "A & B"]]]

/-- A name, or anything. -/
def alternative : Filter :=
  .group .or [.group .and [], firstName "Rob"]

/-- The query for the contacts that meet criteria. -/
def contacts (c : Criteria) : Query :=
  { Query.ofEntity "contact" with criteria := c }

/-- A query without a limit and without a page has no numbers to be in range. -/
theorem inRange_contacts (c : Criteria) : (contacts c).InRange :=
  ⟨nofun, nofun⟩

/-- A contact that goes by another name. -/
def joe : Record :=
  ((Record.ofEntity "contact").withId (Uuid.numbered 1)).set "firstname" (.text (some "Joe"))

/-- A first name is asked for by its text. -/
theorem hasTextOperands_firstName {s : String} (hs : Text.trim s = s) :
    (firstName s).HasTextOperands :=
  .condition (.one ⟨s, rfl, hs⟩)

/-- An empty group asks for no texts. -/
theorem hasTextOperands_empty (kind : GroupKind) : HasTextOperands (.group kind []) :=
  .group (List.forall_mem_nil _)

end Sample

/-- The conjunction is read back with its meaning. -/
theorem holds_ofXml_conjunction :
    ∃ c, compile (.named "contact") Sample.conjunction = .ok c ∧
      ∃ q', Query.ofXml (Sample.contacts c).toXml = .ok q' ∧
        ∀ s : Scope, s.holds q'.criteria = s.holds c := by
  have hnames : HasTextOperands
      (.group .or [Sample.firstName "Rob", Sample.firstName "A & B"]) := by
    refine .group (List.forall_mem_cons.2 ⟨?_, List.forall_mem_singleton.2 ?_⟩)
    · exact Sample.hasTextOperands_firstName (by decide +kernel)
    · exact Sample.hasTextOperands_firstName (by decide +kernel)
  have hfilter : Sample.conjunction.HasTextOperands := by
    refine .group (List.forall_mem_cons.2 ⟨Sample.hasTextOperands_empty _, ?_⟩)
    exact List.forall_mem_singleton.2 (.group (List.forall_mem_singleton.2 hnames))
  obtain ⟨c, hc, halternative⟩ : ∃ c, compile (.named "contact") Sample.conjunction = .ok c ∧
      c.hasEmptyAlternative = false := ⟨_, rfl, rfl⟩
  obtain ⟨q', hread, -, -, hholds⟩ := holds_ofXml hfilter hc (Sample.inRange_contacts c) rfl
  exact ⟨c, hc, q', hread, fun s => (hholds s).2.2 halternative⟩

/-- The alternative holds on anybody, and is read back as the condition on the name. -/
theorem holds_ofXml_alternative :
    Sample.alternative.HasTextOperands ∧
      ∃ c, compile (.named "contact") Sample.alternative = .ok c ∧
        ∃ q', Query.ofXml (Sample.contacts c).toXml = .ok q' ∧
          ∃ s : Scope, s.holds c = true ∧ s.holds q'.criteria = false := by
  have hfilter : Sample.alternative.HasTextOperands :=
    .group (List.forall_mem_cons.2 ⟨Sample.hasTextOperands_empty _,
      List.forall_mem_singleton.2 (Sample.hasTextOperands_firstName (by decide +kernel))⟩)
  let c : Criteria :=
    ⟨.or, [⟨none, "firstname", .equal, [.text (some "Rob")]⟩], [.always]⟩
  have hread := (Query.ofXml_toXml_of_inRange (Sample.inRange_contacts c)).1
  exact ⟨hfilter, c, rfl, _, hread, .ofRow (.ofCatalog .empty) (.ofRecord Sample.joe),
    by decide +kernel, by decide +kernel⟩

end Filter

end RecordService
