import RecordService.Proofs.Filter.Meaning

namespace RecordService

/-!
# Filters of linked entities

A filter is compiled for a link as it is for the root: its values get the same types, it fails in
the same way, and only the conditions say another owner, those included that the compiler makes up.

* `Criteria.ownedBy`: criteria whose conditions are all on attributes of one link.
* `Filter.Unqualified`: a filter whose names say no owner themselves.
* `Filter.compileNode_owned`: what such a filter is compiled to under either polarity.
* `Filter.compile_owned`: its criteria for a link are those for the root with the link as owner.
-/

/-! ### Owners -/

/-- The condition on the attribute of a link. -/
def Condition.ownedBy (owner : String) (c : Condition) : Condition :=
  { c with owner := some owner }

namespace Criteria

mutual

/-- The criteria with all conditions, at every depth, on attributes of a link. -/
def ownedBy (owner : String) : Criteria → Criteria
  | ⟨connective, conditions, filters⟩ =>
    ⟨connective, conditions.map (·.ownedBy owner), allOwnedBy owner filters⟩

/-- Some criteria with all conditions on attributes of a link. -/
def allOwnedBy (owner : String) : List Criteria → List Criteria
  | [] => []
  | f :: fs => f.ownedBy owner :: allOwnedBy owner fs

end

/-- The groups in a group change their owner one by one. -/
theorem allOwnedBy_eq_map (owner : String) (fs : List Criteria) :
    allOwnedBy owner fs = fs.map (·.ownedBy owner) := by
  induction fs with
  | nil => rfl
  | cons f fs ih => rw [allOwnedBy, ih, List.map_cons]

end Criteria

namespace Filter

/-- A compiled filter with all conditions on attributes of a link. -/
def Compiled.ownedBy (owner : String) : Compiled → Compiled
  | condition c => condition (c.ownedBy owner)
  | group f => group (f.ownedBy owner)

/-- The inverse condition and the test for null have the owner of the condition. -/
theorem Compiled.ofCondition_ownedBy (owner : String) (c : Condition) (negated : Bool) :
    ofCondition (c.ownedBy owner) negated = (ofCondition c negated).ownedBy owner := by
  obtain ⟨_, name, operator, values⟩ := c
  cases negated with
  | false => rfl
  | true => cases operator <;> rfl

/-- The conditions of compiled parts change their owner one by one. -/
theorem Compiled.conditions_ownedBy (owner : String) (parts : List Compiled) :
    conditions (parts.map (·.ownedBy owner)) = (conditions parts).map (·.ownedBy owner) := by
  rw [conditions, conditions, List.filterMap_map, List.map_filterMap]
  congr 1
  funext part
  cases part <;> rfl

/-- The groups of compiled parts change their owner one by one. -/
theorem Compiled.groups_ownedBy (owner : String) (parts : List Compiled) :
    groups (parts.map (·.ownedBy owner)) = (groups parts).map (·.ownedBy owner) := by
  rw [groups, groups, List.filterMap_map, List.map_filterMap]
  congr 1
  funext part
  cases part <;> rfl

/-- The parts of a group get the owner that the group gets. -/
theorem Compiled.ownedBy_join (owner : String) (connective : Connective) (parts : List Compiled) :
    (join connective parts).ownedBy owner = join connective (parts.map (·.ownedBy owner)) := by
  rw [join, Criteria.ownedBy, Criteria.allOwnedBy_eq_map, join, conditions_ownedBy, groups_ownedBy]

/-- A filter whose names say no owner. -/
inductive Unqualified : Filter → Prop where
  | condition {name : String} {operator : Operator} {operand : Json} (hname : '.' ∉ name.toList) :
      Unqualified (.condition name operator operand)
  | group {kind : GroupKind} {children : List Filter} (hchildren : ∀ f ∈ children, Unqualified f) :
      Unqualified (.group kind children)

/-! ### Compiled conditions -/

/-- A name that says no owner is one of the filtered entity, which types the operands. -/
theorem Target.condition_of_not_mem (t : Target) {name : String} (hname : '.' ∉ name.toList)
    (operator : Operator) (operand : Json) (negated : Bool) :
    t.condition name operator operand negated =
      (operands name operator operand (t.valueFor true name)).map fun r =>
        Compiled.ofCondition ⟨t.owner, name, r.1, r.2⟩ negated := by
  have htyped : (t.owner.isNone || t.owner == t.owner) = true := by simp
  rw [condition, splitOwner_of_not_mem hname]
  show (operands name operator operand
    (t.valueFor (t.owner.isNone || t.owner == t.owner) name) >>= _) = _
  rw [htyped]
  cases operands name operator operand (t.valueFor true name) <;> rfl

section

variable {metadata : Option Entity} {entity : Option String} {owner : String}

/-- A condition for an owner is the one without owner, owned, failures included. -/
theorem condition_owned {name : String} (hname : '.' ∉ name.toList) (operator : Operator)
    (operand : Json) (negated : Bool) :
    Target.condition ⟨metadata, entity, some owner⟩ name operator operand negated =
      (Target.condition ⟨metadata, entity, none⟩ name operator operand negated).map
        (·.ownedBy owner) := by
  rw [Target.condition_of_not_mem _ hname, Target.condition_of_not_mem _ hname]
  -- the owner has no part in the types of the values
  have hvalues : Target.valueFor ⟨metadata, entity, some owner⟩ true name =
      Target.valueFor ⟨metadata, entity, none⟩ true name := rfl
  rw [hvalues]
  cases Target.operands name operator operand (Target.valueFor ⟨metadata, entity, none⟩ true name)
  case error e => rfl
  case ok r =>
    exact congrArg Except.ok (Compiled.ofCondition_ownedBy owner ⟨none, name, r.1, r.2⟩ negated)

/-- What selects nothing for an owner is the one without owner, owned. -/
theorem nothing_owned (kind : GroupKind) :
    Target.nothing ⟨metadata, entity, some owner⟩ kind =
      (Target.nothing ⟨metadata, entity, none⟩ kind).map (·.ownedBy owner) := by
  cases metadata with
  | some e => rfl
  | none => cases entity <;> rfl

/-! ### Compiled filters -/

/-- **Compilation.** Under either polarity a filter whose names say no owner is compiled for a link
to what it is compiled to for the root, with the link as owner. -/
theorem compileNode_owned {f : Filter} (hf : f.Unqualified) (negated : Bool) :
    compileNode ⟨metadata, entity, some owner⟩ f negated =
      (compileNode ⟨metadata, entity, none⟩ f negated).map (·.ownedBy owner) := by
  induction f using group_induction generalizing negated with
  | condition name operator operand =>
    rw [compileNode, compileNode]
    cases hf with
    | condition hname => exact condition_owned hname operator operand negated
  | group kind children ih =>
    -- the children, and then their connection, under whichever polarity the kind asks for
    have hall : ∀ negated, compileAll ⟨metadata, entity, some owner⟩ children negated =
        (compileAll ⟨metadata, entity, none⟩ children negated).map
          (List.map (·.ownedBy owner)) := by
      intro negated
      cases hf with
      | group hchildren =>
        rw [compileAll_eq_mapM, compileAll_eq_mapM]
        exact Answer.mapM_eq_map fun f hf => ih f hf (hchildren f hf) negated
    have hjoin : ∀ connective negated,
        (do return .group (Compiled.join connective
          (← compileAll ⟨metadata, entity, some owner⟩ children negated)) : Answer Compiled) =
        (do return .group (Compiled.join connective
          (← compileAll ⟨metadata, entity, none⟩ children negated)) : Answer Compiled).map
            (·.ownedBy owner) := by
      intro connective negated
      rw [hall, Answer.map_bind, Answer.bind_map]
      simp only [← Compiled.ownedBy_join]
      rfl
    cases kind <;> rw [compileNode, compileNode]
    case and =>
      split
      · exact nothing_owned .and
      · exact hjoin _ negated
    case or =>
      split
      · exact nothing_owned .or
      · exact hjoin _ negated
    case not =>
      split
      · rfl
      · exact hjoin _ !negated
    case xor =>
      split
      · rfl
      · simp only [hall, Answer.map_bind, Answer.bind_map, ← Compiled.ownedBy_join]
        rfl

/-- **Owners.** Take a filter whose names say no owner. Compiled for a link it has the criteria that
it has for the root, with the link as the owner of every condition at every depth, or it fails with
the same failure. -/
theorem compile_owned (metadata : Option Entity) (entity : Option String) (owner : String)
    {f : Filter} (hf : f.Unqualified) :
    compile ⟨metadata, entity, some owner⟩ f =
      (compile ⟨metadata, entity, none⟩ f).map (·.ownedBy owner) := by
  rw [compile, compile, compileNode_owned hf, Answer.map_bind, Answer.bind_map]
  refine congrArg (compileNode ⟨metadata, entity, none⟩ f false >>= ·) (funext fun part => ?_)
  cases part <;> rfl

end

namespace Sample

/-- Accounts of which not exactly one holds: that they earn more than ten, or that they have a
revenue or there are none. -/
def earning : Filter :=
  .group .not
    [.group .xor [.condition "revenue" .greaterThan (.string "10"),
      .group .or [.condition "revenue" .notNull .null, .group .not [.group .and []]]]]

end Sample

/-- The filter on an account that goes by the name `a`. -/
theorem compile_owned_earning :
    Sample.earning.Unqualified ∧
      ∃ c, compile ⟨some Sample.account, none, none⟩ Sample.earning = .ok c ∧
        compile ⟨some Sample.account, none, some "a"⟩ Sample.earning = .ok (c.ownedBy "a") := by
  have hname : '.' ∉ "revenue".toList := by decide
  have hnothing : Unqualified (.group .not [.group .and []]) :=
    .group (List.forall_mem_singleton.2 (.group (List.forall_mem_nil _)))
  have hsome : Unqualified
      (.group .or [.condition "revenue" .notNull .null, .group .not [.group .and []]]) :=
    .group (List.forall_mem_cons.2 ⟨.condition hname, List.forall_mem_singleton.2 hnothing⟩)
  have hunqualified : Sample.earning.Unqualified := by
    refine .group (List.forall_mem_singleton.2 (.group (List.forall_mem_cons.2 ⟨?_, ?_⟩)))
    · exact .condition hname
    · exact List.forall_mem_singleton.2 hsome
  obtain ⟨c, hc⟩ : ∃ c, compile ⟨some Sample.account, none, none⟩ Sample.earning = .ok c :=
    ⟨_, rfl⟩
  refine ⟨hunqualified, c, hc, ?_⟩
  rw [compile_owned (some Sample.account) none "a" hunqualified, hc]
  rfl

end Filter

end RecordService
