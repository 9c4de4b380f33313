import RecordService.Proofs.Coercion.Sound
import RecordService.Proofs.Filter.Meaning

namespace RecordService

/-!
# The shape of filters

A negation needs something to negate, and exactly one of two needs two. Both the reader of loose
filters and the compiler ask for it; a filter that was read has that shape at every depth, so that
the compiler never finds a fault with it. What is left to fail by are the conditions: an attribute
that is unknown, or an operand that is not taken.

* `Filter.Shaped`: a filter whose groups have the children that they ask for.
* `Filter.shaped_ofJson`: a filter that was read is one.
* `Filter.failsBy_compile`: what the compilation of such a filter fails by.
* `Filter.compile_of_ofJson`: both together.
-/

/-- The causes for which a condition of a filter has no values. -/
inductive Cause.IsOperand : Cause → Prop where
  | unknownAttribute (entity name : String) : IsOperand (.unknownAttribute entity name)
  | typeMismatch (name message : String) : IsOperand (.typeMismatch name message)
  | format (message : String) : IsOperand (.format message)

/-- A value that is not taken is an operand that is not taken. -/
theorem Cause.IsConversion.isOperand {c : Cause} (h : c.IsConversion) : c.IsOperand := by
  cases h with
  | typeMismatch name message => exact .typeMismatch name message
  | format message => exact .format message

namespace Filter

/-- A filter whose negations negate something, and whose groups of exactly one have two children,
at every depth. -/
inductive Shaped : Filter → Prop where
  | condition (name : String) (operator : Operator) (operand : Json) :
      Shaped (.condition name operator operand)
  | group {kind : GroupKind} {children : List Filter} (hnot : kind = .not → children ≠ [])
      (hxor : kind = .xor → children.length = 2) (hchildren : ∀ f ∈ children, Shaped f) :
      Shaped (.group kind children)

/-! ### Filters that are read -/

/-- The members of a condition make a condition. -/
theorem shaped_explicitCondition {name : String} {operator : Operator} {operand : Json}
    {members : List (String × Json)} {f : Filter}
    (h : explicitCondition name operator operand members = .ok f) : f.Shaped := by
  induction members generalizing operator operand with
  | nil =>
    cases h
    exact .condition name operator operand
  | cons member members ih =>
    unfold explicitCondition at h
    split at h
    · split at h
      · obtain ⟨operator', -, h⟩ := Answer.bind_eq_ok.1 h
        exact ih h
      · exact nomatch h
    · exact ih h
    · exact ih h
    · exact nomatch h

/-- A member makes a condition, whether it names an operator or not. -/
theorem shaped_ofMember {member : String × Json} {f : Filter} (h : ofMember member = .ok f) :
    f.Shaped := by
  unfold ofMember at h
  dsimp only at h
  split at h
  · split at h
    · exact shaped_explicitCondition h
    · cases h
      exact .condition _ _ _
  all_goals
    cases h
    exact .condition _ _ _

/-- A group that is checked has the shape that its kind asks for. -/
theorem shaped_checkedGroup {kind : GroupKind} {children : List Filter} {f : Filter}
    (hchildren : ∀ f ∈ children, f.Shaped) (h : checkedGroup kind children = .ok f) :
    f.Shaped := by
  unfold checkedGroup at h
  split at h
  · exact nomatch h
  · rename_i hnot
    split at h
    · exact nomatch h
    · rename_i hxor
      cases h
      refine .group (fun hkind hnil => hnot ⟨hkind, hnil⟩) (fun hkind => ?_) hchildren
      exact Decidable.not_not.1 fun hlength => hxor ⟨hkind, hlength⟩

mutual

/-- **Reading.** A filter that is read is shaped. -/
theorem shaped_ofJson (j : Json) {f : Filter} (h : ofJson j = .ok f) : f.Shaped := by
  match j with
  | .object members =>
    rw [ofJson] at h
    exact shaped_ofMap members h
  | .array items =>
    rw [ofJson] at h
    obtain ⟨fs, hfs, h⟩ := Answer.bind_eq_ok.1 h
    cases h
    exact .group nofun nofun (shaped_ofItems items hfs)
  | .null | .bool _ | .int _ | .double _ | .string _ => exact nomatch h

/-- Members make a filter that is well formed: a conjunction of conditions, or one group whose
number of children was checked. -/
theorem shaped_ofMap (members : List (String × Json)) {f : Filter} (h : ofMap members = .ok f) :
    f.Shaped := by
  match members with
  | [] =>
    rw [ofMap] at h
    cases h
    exact .group nofun nofun (List.forall_mem_nil _)
  | member :: rest =>
    rw [ofMap] at h
    split at h
    · obtain ⟨fs, hfs, h⟩ := Answer.bind_eq_ok.1 h
      cases h
      exact .group nofun nofun
        (Answer.forall_of_mapM hfs fun _ _ _ hmember => shaped_ofMember hmember)
    · split at h
      · obtain ⟨fs, hfs, h⟩ := Answer.bind_eq_ok.1 h
        exact shaped_checkedGroup (shaped_childrenOf _ member hfs) h
      · exact nomatch h

/-- The children under a key are well formed. -/
theorem shaped_childrenOf (key : String) (member : String × Json) {fs : List Filter}
    (h : childrenOf key member = .ok fs) : ∀ f ∈ fs, f.Shaped := by
  match member with
  | (_, value) =>
    rw [childrenOf] at h
    exact shaped_childrenIn key value h

/-- The children in a value are well formed, be it a list of filters or one filter. -/
theorem shaped_childrenIn (key : String) (j : Json) {fs : List Filter}
    (h : childrenIn key j = .ok fs) : ∀ f ∈ fs, f.Shaped := by
  match j with
  | .array items =>
    rw [childrenIn] at h
    exact shaped_ofItems items h
  | .object members =>
    rw [childrenIn] at h
    obtain ⟨f, hf, h⟩ := Answer.bind_eq_ok.1 h
    cases h
    exact List.forall_mem_singleton.2 (shaped_ofMap members hf)
  | .null | .bool _ | .int _ | .double _ | .string _ => exact nomatch h

/-- The filters in a list are well formed. -/
theorem shaped_ofItems (items : List Json) {fs : List Filter} (h : ofItems items = .ok fs) :
    ∀ f ∈ fs, f.Shaped := by
  match items with
  | [] =>
    rw [ofItems] at h
    cases h
    exact List.forall_mem_nil _
  | item :: items =>
    rw [ofItems] at h
    obtain ⟨f, hf, h⟩ := Answer.bind_eq_ok.1 h
    obtain ⟨fs, hfs, h⟩ := Answer.bind_eq_ok.1 h
    cases h
    exact List.forall_mem_cons.2 ⟨shaped_ofJson item hf, shaped_ofItems items hfs⟩

end

/-! ### Compiled conditions -/

namespace Target

/-- Whether an entity is known by its metadata, or at least by its name. -/
def IsKnown (t : Target) : Prop :=
  t.metadata.isSome ∨ t.entity.isSome

/-- Of an entity that is known, no record is without an identity. -/
theorem nothing_of_isKnown {t : Target} (ht : t.IsKnown) :
    ∃ name, ∀ kind, t.nothing kind = .ok (.condition ⟨t.owner, name, .null, []⟩) := by
  obtain ⟨metadata, entity, owner⟩ := t
  cases metadata with
  | some e => exact ⟨e.primaryId, fun _ => rfl⟩
  | none =>
    cases entity with
    | some entity => exact ⟨Entity.defaultPrimaryId entity, fun _ => rfl⟩
    | none => simp [IsKnown] at ht

open Answer

variable (t : Target)

/-- The value of an operand fails because its attribute is not declared, or because it is not
taken. -/
theorem failsBy_valueFor (isTyped : Bool) (name : String) (j : Json) :
    FailsBy Cause.IsOperand (t.valueFor isTyped name j) := by
  have hguess : FailsBy Cause.IsOperand j.guess :=
    j.failsBy_guess.mono fun _ => Cause.IsConversion.isOperand
  unfold valueFor valueOf
  split
  · split
    · exact hguess
    · split
      · exact (Attribute.failsBy_coerceJson _ j).mono fun _ => Cause.IsConversion.isOperand
      · exact failsBy_fail (.unknownAttribute _ _)
  · exact hguess

/-- The operands of a condition fail by their values, or because the operator does not take
them. -/
theorem failsBy_operands (name : String) (operator : Operator) (operand : Json)
    {toValue : Json → Answer Value} (hvalue : ∀ j, FailsBy Cause.IsOperand (toValue j)) :
    FailsBy Cause.IsOperand (operands name operator operand toValue) := by
  have hmismatch : ∀ message, FailsBy Cause.IsOperand (operands.mismatch name message) :=
    fun message => failsBy_fail (.typeMismatch name message)
  have hpattern : ∀ operator, FailsBy Cause.IsOperand (operands.pattern name operand operator) := by
    intro operator
    unfold operands.pattern
    split
    · exact failsBy_ok _
    · exact hmismatch _
  have hlist : FailsBy Cause.IsOperand ((operands.members operand).mapM toValue) :=
    FailsBy.mapM fun j _ => hvalue j
  unfold operands
  split
  · exact failsBy_ok _
  · exact failsBy_ok _
  · exact hlist.bind fun _ => failsBy_ok _
  · exact hlist.bind fun _ => failsBy_ok _
  · exact hpattern _
  · exact hpattern _
  · split
    · exact hmismatch _
    · refine (hvalue _).bind fun v => ?_
      split
      · exact failsBy_ok _
      · split
        · exact failsBy_ok _
        · split
          · exact failsBy_ok _
          · exact hmismatch _

/-- A condition fails by its operands only. -/
theorem failsBy_condition (name : String) (operator : Operator) (operand : Json) (negated : Bool) :
    FailsBy Cause.IsOperand (t.condition name operator operand negated) := by
  unfold condition
  exact (failsBy_operands _ operator operand fun j => t.failsBy_valueFor _ _ j).bind
    fun _ => failsBy_ok _

end Target

/-! ### Compiled filters -/

open Answer

/-- **Compilation.** Under either polarity a shaped filter fails by one of its conditions. -/
theorem failsBy_compileNode {t : Target} (ht : t.IsKnown) {f : Filter} (hf : f.Shaped)
    (negated : Bool) : FailsBy Cause.IsOperand (compileNode t f negated) := by
  induction f using group_induction generalizing negated with
  | condition name operator operand =>
    rw [compileNode]
    exact t.failsBy_condition name operator operand negated
  | group kind children ih =>
    obtain ⟨hnot, hxor, hchildren⟩ : (kind = .not → children ≠ []) ∧
        (kind = .xor → children.length = 2) ∧ ∀ f ∈ children, f.Shaped := by
      cases hf with
      | group hnot hxor hchildren => exact ⟨hnot, hxor, hchildren⟩
    have hall : ∀ negated, FailsBy Cause.IsOperand (compileAll t children negated) := by
      intro negated
      rw [compileAll_eq_mapM]
      exact FailsBy.mapM fun f hf => ih f hf (hchildren f hf) negated
    have hnothing : ∀ kind, FailsBy Cause.IsOperand (t.nothing kind) := by
      intro kind
      obtain ⟨name, hname⟩ := Target.nothing_of_isKnown ht
      rw [hname]
      exact failsBy_ok _
    -- the shape excludes the failures of negations of nothing and of other numbers than two
    cases kind <;> rw [compileNode]
    case and =>
      split
      · exact hnothing _
      · exact (hall _).bind fun _ => failsBy_ok _
    case or =>
      split
      · exact hnothing _
      · exact (hall _).bind fun _ => failsBy_ok _
    case not =>
      rw [if_neg (by simpa using hnot rfl)]
      exact (hall _).bind fun _ => failsBy_ok _
    case xor =>
      rw [if_neg (Decidable.not_not.2 (hxor rfl))]
      exact (hall _).bind fun _ => (hall _).bind fun _ => failsBy_ok _

/-- A well-formed filter for a known target fails by the operands of its conditions only. -/
theorem failsBy_compile {t : Target} (ht : t.IsKnown) {f : Filter} (hf : f.Shaped) :
    FailsBy Cause.IsOperand (compile t f) := by
  rw [compile]
  refine (failsBy_compileNode ht hf false).bind fun part => ?_
  cases part with
  | condition c => exact failsBy_ok _
  | group g => exact failsBy_ok _

/-- **The shape is decided once.** A filter that is read has groups with the children that they ask
for, at every depth. Compiled for any entity that is known it has criteria, or it fails by an
attribute that is unknown or by an operand that is not taken, and never by its shape. -/
theorem compile_of_ofJson {j : Json} {f : Filter} (h : ofJson j = .ok f) :
    f.Shaped ∧ ∀ t : Target, t.IsKnown → (∃ c, compile t f = .ok c) ∨
      ∃ e c, compile t f = .error e ∧ e.kind? = some c ∧ c.IsOperand := by
  have hf := shaped_ofJson j h
  refine ⟨hf, fun t ht => ?_⟩
  cases hcompile : compile t f with
  | ok c => exact .inl ⟨c, rfl⟩
  | error e =>
    obtain ⟨c, hkind, hc⟩ := failsBy_compile ht hf e hcompile
    exact .inr ⟨e, c, rfl, hkind, hc⟩

namespace Sample

/-- Accounts that do not earn more than ten, or of which exactly one holds: their contact is Ada, or
they have a nickname that no account has. -/
def loose : Json :=
  .object [("OR", .array
    [.object [("not", .object [("revenue", .object [("operator", .string "gt"),
      ("value", .int 10)])])],
      .object [("xor", .array [.object [("contact.name", .string "Ada")],
        .object [("nickname", .string "Rob")]])]])]

end Sample

/-- The filter is read with its shape. Compiled for accounts it fails by the nickname. -/
theorem compile_of_ofJson_loose :
    ∃ f, ofJson Sample.loose = .ok f ∧ f.Shaped ∧ (Target.ofEntity Sample.account).IsKnown ∧
      ∃ e c, compile (.ofEntity Sample.account) f = .error e ∧ e.kind? = some c ∧ c.IsOperand ∧
        c = .unknownAttribute "account" "nickname" := by
  obtain ⟨f, hf, hfails⟩ : ∃ f, ofJson Sample.loose = .ok f ∧
      compile (.ofEntity Sample.account) f = fail (.unknownAttribute "account" "nickname") :=
    ⟨_, rfl, rfl⟩
  have hknown : (Target.ofEntity Sample.account).IsKnown := .inl rfl
  obtain ⟨hshaped, hcompile⟩ := compile_of_ofJson hf
  refine ⟨f, hf, hshaped, hknown, ?_⟩
  rcases hcompile _ hknown with ⟨c, hc⟩ | ⟨e, c, he, hkind, hc⟩
  · exact nomatch hfails.symm.trans hc
  · cases hfails.symm.trans he
    cases hkind
    exact ⟨_, _, hfails, rfl, hc, rfl⟩

end Filter

end RecordService
