import RecordService.Proofs.Answer
import RecordService.Proofs.Filter.Meaning
import RecordService.Proofs.Text.Run
import RecordService.Proofs.Uuid
import RecordService.Proofs.Value.Order
import RecordService.Query.Draft

namespace RecordService

/-!
# What a draft selects

The filter, the exclusions, the identities and the names of a draft become one filter, and that
becomes the criteria of its query. They hold on the records that meet every part that was given.

* `Filter.meaning_isIn`: a list of values for an attribute means that one of them is equal.
* `QueryDraft.selection_eq_ok`: the parts of a selection.
* `QueryDraft.Selects`: what the parts of a draft say about a record.
* `QueryDraft.holds_build`: the criteria of a built query hold on the records that are selected.
-/

/-! ### Values of a record -/

/-- The identifying attribute has the identity. -/
theorem Record.valueOf_primaryId (r : Record) (e : Entity) :
    r.valueOf (some e) e.primaryId = .uuid r.id :=
  if_pos (Text.eqIgnoreCase_self e.primaryId)

/-- An attribute without an owner has the value that the current record has. -/
theorem Scope.value_of_entity? {s : Scope} {e : Entity}
    (he : s.tables.catalog.entity? s.current.entity = some e) (name : String) :
    s.value none name = s.current.valueOf (some e) name := by
  simp only [value, owner?, he]

/-- Identifiers are equal if they are the same. -/
theorem Value.looseEq_uuid_iff {id? : Option Uuid} {id : Uuid} :
    (Value.uuid id?).looseEq (.uuid (some id)) = true ↔ id? = some id := by
  cases id? with
  | none =>
    rw [looseEq_of_isNull (.inl rfl)]
    exact iff_of_false Bool.false_ne_true nofun
  | some other =>
    rw [looseEq, beq_iff_eq, Option.some.injEq]
    show some (Ord.compare other.value id.value) = some .eq ↔ _
    rw [Option.some.injEq, Nat.compare_eq_eq]
    constructor
    · intro heq
      cases other
      cases id
      cases heq
      rfl
    · rintro rfl
      rfl

/-- A value is in a list if it equals a member, which a null does not. -/
theorem Condition.holdsFor_isIn (owner : Option String) (name : String) (values : List Value)
    (v : Value) : (Condition.mk owner name .isIn values).holdsFor v = values.any v.looseEq := by
  unfold holdsFor
  cases hv : v.isNull with
  | false => rfl
  | true =>
    have hnone : values.any v.looseEq = false := by
      rw [List.any_eq_false]
      intro w _
      rw [Value.looseEq_of_isNull (.inl hv)]
      exact Bool.false_ne_true
    rw [if_pos rfl, hnone]
    rfl

/-! ### Lists of values for an attribute -/

namespace Filter

section

variable {t : Target} {s : Scope} {e : Entity} {name : String} {a : Attribute} {α : Type}
  {loose : α → Json} {value : α → Value} (ht : t.metadata = some e) (howner : t.owner = none)
  (hname : '.' ∉ name.toList) (ha : e.attribute? name = some a)
  (hvalue : ∀ x, a.coerceJson (loose x) = .ok (value x)) (xs : List α)

include ht howner hname ha hvalue

/-- Loose data in a list are typed by the attribute that they are for. -/
theorem Target.condition_isIn : t.condition name .isIn (.array (xs.map loose)) false =
    .ok (.condition ⟨none, name, .isIn, xs.map value⟩) := by
  -- without an owner the attribute is one of the entity, which types its values
  have htyped : ∀ j, t.valueFor true name j = a.coerceJson j := by
    intro j
    simp only [valueFor, valueOf, ht, ha, if_true]
  have hloose : t.valueFor true name ∘ loose = fun x => pure (value x) :=
    funext fun x => (htyped _).trans (hvalue x)
  have hvalues : (xs.map loose).mapM (t.valueFor true name) = .ok (xs.map value) := by
    rw [List.mapM_map, hloose]
    exact List.mapM_pure
  rw [condition, splitOwner_of_not_mem hname, howner]
  show (operands name .isIn (.array (xs.map loose)) (t.valueFor true name) >>= _) = _
  rw [operands, operands.members, hvalues]
  rfl

/-- **Lists.** An attribute is in a list of loose data if its value equals one of theirs. -/
theorem meaning_isIn : meaning t s (.condition name .isIn (.array (xs.map loose))) = true ↔
    ∃ x ∈ xs, (s.value none name).looseEq (value x) = true := by
  rw [meaning, conditionMeaning_eq (Target.condition_isIn ht howner hname ha hvalue xs),
    Scope.meets, Condition.holdsFor_isIn, List.any_map, List.any_eq_true]
  rfl

/-- A condition on a list of loose data can be decided on every record: nothing is compared by
order. -/
theorem decides_isIn : Decides t s (.condition name .isIn (.array (xs.map loose))) :=
  decides_condition (Target.condition_isIn ht howner hname ha hvalue xs) nofun

end

/-! ### Groups of filters -/

/-- The meanings of some filters are those of each. -/
theorem meanings_eq_map (t : Target) (s : Scope) (fs : List Filter) :
    meanings t s fs = fs.map (meaning t s) := by
  induction fs with
  | nil => rfl
  | cons f fs ih => rw [meanings, ih, List.map_cons]

/-- Some filters can be decided together exactly if each of them can. -/
theorem allDecide_iff {t : Target} {s : Scope} {fs : List Filter} :
    AllDecide t s fs ↔ ∀ f ∈ fs, Decides t s f := by
  induction fs with
  | nil => exact iff_of_true trivial nofun
  | cons f fs ih => rw [AllDecide, ih, List.forall_mem_cons]

/-- Some filters, all of which together mean `p`. -/
structure AllMean (t : Target) (s : Scope) (fs : List Filter) (p : Prop) : Prop where
  decides : ∀ f ∈ fs, Decides t s f
  iff : (∀ f ∈ fs, meaning t s f = true) ↔ p

/-- Some filters, of which it means `p` that there is one. -/
structure AnyMeans (t : Target) (s : Scope) (fs : List Filter) (p : Prop) : Prop where
  decides : ∀ f ∈ fs, Decides t s f
  iff : (∃ f ∈ fs, meaning t s f = true) ↔ p

/-- No filter for no filters, and else the negation of their disjunction. -/
def exclusion (excluded : List Filter) : List Filter :=
  if excluded.isEmpty then [] else [.group .not [.group .or excluded]]

section

variable {t : Target} {s : Scope} {f : Filter} {fs gs : List Filter} {p q : Prop}

/-- No filters together mean whatever is true. -/
theorem AllMean.of_nil (hp : p) : AllMean t s [] p :=
  ⟨nofun, iff_of_true nofun hp⟩

/-- Of no filters, there is none that holds. -/
theorem AnyMeans.of_nil (hp : ¬p) : AnyMeans t s [] p :=
  ⟨nofun, iff_of_false (by simp) hp⟩

/-- A filter alone means what it means among all. -/
theorem AllMean.of_singleton (hd : Decides t s f) (h : meaning t s f = true ↔ p) :
    AllMean t s [f] p :=
  ⟨List.forall_mem_singleton.2 hd, List.forall_mem_singleton.trans h⟩

/-- A filter alone means what it means among any. -/
theorem AnyMeans.of_singleton (hd : Decides t s f) (h : meaning t s f = true ↔ p) :
    AnyMeans t s [f] p :=
  ⟨List.forall_mem_singleton.2 hd, by simpa using h⟩

/-- Filters that all have to hold mean a conjunction when they are put together. -/
theorem AllMean.append (hf : AllMean t s fs p) (hg : AllMean t s gs q) :
    AllMean t s (fs ++ gs) (p ∧ q) :=
  ⟨List.forall_mem_append.2 ⟨hf.decides, hg.decides⟩,
    List.forall_mem_append.trans (and_congr hf.iff hg.iff)⟩

/-- Filters of which any has to hold mean a disjunction when they are put together. -/
theorem AnyMeans.append (hf : AnyMeans t s fs p) (hg : AnyMeans t s gs q) :
    AnyMeans t s (fs ++ gs) (p ∨ q) := by
  refine ⟨List.forall_mem_append.2 ⟨hf.decides, hg.decides⟩, ?_⟩
  simp only [List.mem_append, or_and_right, exists_or]
  exact or_congr hf.iff hg.iff

/-- **Exclusion.** It means that there is none of the excluded filters. -/
theorem AnyMeans.exclusion (h : AnyMeans t s fs p) : AllMean t s (exclusion fs) ¬p := by
  have hnone := h.iff.not
  unfold Filter.exclusion
  cases fs with
  | nil => exact .of_nil (hnone.1 (by simp))
  | cons f fs =>
    -- a disjunction that is not empty, so that it means one of its members
    refine .of_singleton ⟨allDecide_iff.2 h.decides, trivial⟩ (Iff.trans ?_ hnone)
    simp [meaning, meanings, meanings_eq_map, GroupKind.combine]

/-- **Conjunctions.** The criteria of a conjunction hold where all its members do. -/
theorem AllMean.holds_iff {c : Criteria} (h : AllMean t s fs p) (hn : t.NothingIn s)
    (hc : compile t (.group .and fs) = .ok c) : s.holds c = true ↔ p := by
  obtain ⟨part, hnode, hc⟩ := Answer.bind_eq_ok.1 hc
  rw [compileNode, if_neg (by simp)] at hnode
  obtain ⟨parts, hparts, rfl⟩ := join_of_ok hnode
  cases hc
  rw [Scope.holds_join, compileAll_meets hn fs false (allDecide_iff.2 h.decides) hparts,
    meanings_eq_map, List.map_map, ← h.iff]
  simp [polarized, Scope.combine]

end

end Filter

/-! ### Parts of a selection -/

namespace QueryDraft

open RecordService.Filter

/-- What is known of the entity of a draft when its filters are compiled. -/
def target (d : QueryDraft) (e : Entity) : Target :=
  ⟨some e, some d.entity, none⟩

variable {d : QueryDraft} {e : Entity} {s : Scope}

/-- A filter that is given is the only one that is read. -/
theorem readFilter_eq_ok {place : String} {j? : Option Json} {fs : List Filter}
    (h : readFilter place j? = .ok fs) :
    j? = none ∧ fs = [] ∨ ∃ j f, j? = some j ∧ Filter.ofJson j = .ok f ∧ fs = [f] := by
  cases j? with
  | none => exact .inl ⟨rfl, (Except.ok.inj h).symm⟩
  | some j =>
    obtain ⟨f, hf, h⟩ := Answer.bind_eq_ok.1 (Answer.mapError_eq_ok.1 h)
    exact .inr ⟨j, f, rfl, hf, (Except.ok.inj h).symm⟩

/-- A selection is the conjunction of what is included and not excluded, of the identities and of
the names. -/
theorem selection_eq_ok {f : Filter} (h : d.selection (some e) = .ok f) :
    ∃ included excluded named,
      readFilter ("filter of `" ++ d.entity ++ "`") d.filter = .ok included ∧
        readFilter ("exclude filter of `" ++ d.entity ++ "`") d.excludeFilter = .ok excluded ∧
        d.nameFilter (some e) = .ok named ∧
        f = .group .and (included ++
          exclusion (excluded ++ idFilter e.primaryId d.excludeIds) ++
            idFilter e.primaryId d.ids ++ named) := by
  obtain ⟨included, hincluded, h⟩ := Answer.bind_eq_ok.1 h
  obtain ⟨excluded, hexcluded, h⟩ := Answer.bind_eq_ok.1 h
  obtain ⟨named, hnamed, h⟩ := Answer.bind_eq_ok.1 h
  exact ⟨included, excluded, named, hincluded, hexcluded, hnamed, (Except.ok.inj h).symm⟩

/-- The criteria of a built query are those of the selection. -/
theorem criteria_of_build {catalog : Catalog} {q : Query} (he : catalog.entity? d.entity = some e)
    (h : d.build catalog = .ok q) :
    ∃ f, d.selection (some e) = .ok f ∧ compile (d.target e) f = .ok q.criteria := by
  obtain ⟨frame, hframe, h⟩ := Answer.bind_eq_ok.1 h
  obtain ⟨links, -, h⟩ := Answer.bind_eq_ok.1 h
  -- the joins only add links
  cases h
  unfold QueryDraft.frame at hframe
  rw [he] at hframe
  obtain ⟨f, hselection, hframe⟩ := Answer.bind_eq_ok.1 hframe
  obtain ⟨criteria, hcriteria, hframe⟩ := Answer.bind_eq_ok.1 hframe
  obtain ⟨names, -, hframe⟩ := Answer.bind_eq_ok.1 hframe
  cases hframe
  exact ⟨f, hselection, hcriteria⟩

/-! ### Identities and names -/

/-- An identifier for an attribute of identifiers is read back from its text. -/
theorem coerceJson_uuid {a : Attribute} (ha : a.type = .uniqueidentifier) (id : Uuid) :
    a.coerceJson (.string id.toText) = .ok (.uuid (some id)) := by
  simp only [Attribute.coerceJson, ha, Attribute.coerceUuid, Uuid.trim_toText,
    Uuid.ofText?_toText]

/-- Loose text for an attribute of text is taken as it is. -/
theorem coerceJson_text {a : Attribute} (ha : a.type = .string) (text : String) :
    a.coerceJson (.string text) = .ok (.text (some text)) := by
  simp only [Attribute.coerceJson, ha, Attribute.coerceText]

/-- Names are asked for by one condition on the primary name, and an entity without one refuses
them. -/
theorem nameFilter_eq_ok {named : List Filter} (h : d.nameFilter (some e) = .ok named) :
    d.names = [] ∧ named = [] ∨ d.names ≠ [] ∧ ∃ name, e.primaryName = some name ∧
      named = [.condition name .isIn (.array (d.names.map .string))] := by
  unfold nameFilter at h
  split at h
  · rename_i hnames
    exact .inl ⟨List.isEmpty_iff.1 hnames, (Except.ok.inj h).symm⟩
  · rename_i hnames
    split at h
    · rename_i name hname
      exact .inr ⟨fun hnil => hnames (List.isEmpty_iff.2 hnil), name, hname,
        (Except.ok.inj h).symm⟩
    · exact nomatch h

section

variable (hid : ∃ a, e.attribute? e.primaryId = some a ∧ a.type = .uniqueidentifier)
  (he : s.tables.catalog.entity? s.current.entity = some e) (ids : List Uuid)
  (hname : ids ≠ [] → '.' ∉ e.primaryId.toList)

include hid he hname

/-- The filter for some identities is met by the records that have one of them. -/
theorem idFilter_cases :
    ids = [] ∧ idFilter e.primaryId ids = [] ∨
      ids ≠ [] ∧ ∃ f, idFilter e.primaryId ids = [f] ∧ Filter.Decides (d.target e) s f ∧
        (meaning (d.target e) s f = true ↔ ∃ id ∈ ids, s.current.id = some id) := by
  by_cases hids : ids = []
  · rw [hids]
    exact .inl ⟨rfl, rfl⟩
  · obtain ⟨a, ha, htype⟩ := hid
    have hvalue := coerceJson_uuid htype
    refine .inr ⟨hids, _, if_neg fun hempty => hids (List.isEmpty_iff.1 hempty),
      decides_isIn rfl rfl (hname hids) ha hvalue ids, ?_⟩
    rw [idList, meaning_isIn rfl rfl (hname hids) ha hvalue ids, Scope.value_of_entity? he,
      Record.valueOf_primaryId]
    simp only [Value.looseEq_uuid_iff]

/-- The filter for the identities to keep says that the record has one of them, or nothing if none
are given. -/
theorem allMean_idFilter : AllMean (d.target e) s (idFilter e.primaryId ids)
    (ids ≠ [] → ∃ id ∈ ids, s.current.id = some id) := by
  rcases idFilter_cases (d := d) hid he ids hname with
    ⟨hnil, hnone⟩ | ⟨hids, f, hone, hdecides, hmeaning⟩
  · rw [hnone]
    exact .of_nil (absurd hnil)
  · rw [hone]
    exact .of_singleton hdecides (hmeaning.trans ⟨fun h _ => h, fun h => h hids⟩)

/-- The filter for the identities to leave out says that the record has one of them. -/
theorem anyMeans_idFilter : AnyMeans (d.target e) s (idFilter e.primaryId ids)
    (∃ id ∈ ids, s.current.id = some id) := by
  rcases idFilter_cases (d := d) hid he ids hname with
    ⟨hnil, hnone⟩ | ⟨hids, f, hone, hdecides, hmeaning⟩
  · rw [hnone, hnil]
    exact .of_nil (by simp)
  · rw [hone]
    exact .of_singleton hdecides hmeaning

end

/-- The filter for names says that the primary name equals one of them, or nothing if none are
given. -/
theorem allMean_nameFilter {named : List Filter} (h : d.nameFilter (some e) = .ok named)
    (he : s.tables.catalog.entity? s.current.entity = some e)
    (hnamed : d.names ≠ [] → ∃ name a, e.primaryName = some name ∧
      e.attribute? name = some a ∧ a.type = .string ∧ '.' ∉ name.toList) :
    AllMean (d.target e) s named (d.names ≠ [] → ∃ name ∈ e.primaryName, ∃ text ∈ d.names,
      (s.current.valueOf (some e) name).looseEq (.text (some text)) = true) := by
  rcases nameFilter_eq_ok h with ⟨hnil, rfl⟩ | ⟨hnames, name, hname, rfl⟩
  · exact .of_nil (absurd hnil)
  · obtain ⟨_, a, hname', ha, htype, hplain⟩ := hnamed hnames
    cases hname.symm.trans hname'
    have hvalue := coerceJson_text htype
    refine .of_singleton (decides_isIn rfl rfl hplain ha hvalue d.names) ?_
    rw [meaning_isIn rfl rfl hplain ha hvalue d.names, Scope.value_of_entity? he, hname]
    simp [hnames]

/-! ### What is selected -/

/-- What is known of the entity of a draft: how its records are identified and, if some names are
given, how they are named. Where the draft goes by these attributes, no point in the name of one
makes it look like the attribute of a link. -/
structure Selectable (d : QueryDraft) (e : Entity) : Prop where
  identified : ∃ a, e.attribute? e.primaryId = some a ∧ a.type = .uniqueidentifier
  unqualified : d.ids ≠ [] ∨ d.excludeIds ≠ [] → '.' ∉ e.primaryId.toList
  named : d.names ≠ [] → ∃ name a, e.primaryName = some name ∧ e.attribute? name = some a ∧
    a.type = .string ∧ '.' ∉ name.toList

/-- The filters of a draft compare by order only what is comparable. -/
def Decides (d : QueryDraft) (e : Entity) (s : Scope) : Prop :=
  ∀ j, j ∈ d.filter ∨ j ∈ d.excludeFilter → ∀ f, Filter.ofJson j = .ok f →
    Filter.Decides (d.target e) s f

/-- A record, seen in its row, meets a filter that is written in loose data. -/
def Meets (d : QueryDraft) (e : Entity) (s : Scope) (j : Json) : Prop :=
  ∃ f, Filter.ofJson j = .ok f ∧ meaning (d.target e) s f = true

/-- What the parts of a draft say about a record. A part that is missing says nothing. -/
structure Selects (d : QueryDraft) (e : Entity) (s : Scope) : Prop where
  filter : ∀ j ∈ d.filter, d.Meets e s j
  excluded : ¬((∃ j ∈ d.excludeFilter, d.Meets e s j) ∨
    ∃ id ∈ d.excludeIds, s.current.id = some id)
  ids : d.ids ≠ [] → ∃ id ∈ d.ids, s.current.id = some id
  names : d.names ≠ [] → ∃ name ∈ e.primaryName, ∃ text ∈ d.names,
    (s.current.valueOf (some e) name).looseEq (.text (some text)) = true

/-- A record meets a filter in loose data exactly if it has the meaning of the filter that is read
from them. -/
theorem meets_iff {j : Json} {f : Filter} (h : Filter.ofJson j = .ok f) :
    d.Meets e s j ↔ meaning (d.target e) s f = true := by
  constructor
  · rintro ⟨g, hg, hmeaning⟩
    cases h.symm.trans hg
    exact hmeaning
  · exact fun hmeaning => ⟨f, h, hmeaning⟩

section

variable {place : String} {j? : Option Json} {fs : List Filter}
  (h : readFilter place j? = .ok fs)
  (hd : ∀ j ∈ j?, ∀ f, Filter.ofJson j = .ok f → Filter.Decides (d.target e) s f)

include h hd

/-- The filter of a draft, as it was read, says that the record meets it, or nothing if there is
none. -/
theorem allMean_readFilter : AllMean (d.target e) s fs (∀ j ∈ j?, d.Meets e s j) := by
  rcases readFilter_eq_ok h with ⟨rfl, rfl⟩ | ⟨j, f, rfl, hf, rfl⟩
  · exact .of_nil nofun
  · refine .of_singleton (hd j rfl f hf) ?_
    rw [← meets_iff hf]
    simp

/-- The filter of what a draft leaves out says that the record meets it, and nobody does if there is
none. -/
theorem anyMeans_readFilter : AnyMeans (d.target e) s fs (∃ j ∈ j?, d.Meets e s j) := by
  rcases readFilter_eq_ok h with ⟨rfl, rfl⟩ | ⟨j, f, rfl, hf, rfl⟩
  · exact .of_nil (by simp)
  · refine .of_singleton (hd j rfl f hf) ?_
    rw [← meets_iff hf]
    simp

end

/-- A record with an identity is not without one, whatever the draft. -/
theorem nothingIn_target (he : s.tables.catalog.entity? s.current.entity = some e)
    (hid : s.current.id.isSome) : (d.target e).NothingIn s := by
  intro kind c hc
  exact Target.nothingIn_ofEntity he hid kind c hc

/-- **Selection law.** The criteria of a built query hold on a row, seen from a record that has an
identity, exactly where the parts of the draft select the record. -/
theorem holds_build {catalog : Catalog} {q : Query} {s : Scope}
    (he : catalog.entity? d.entity = some e) (hselectable : d.Selectable e)
    (hbuild : d.build catalog = .ok q)
    (hrecord : s.tables.catalog.entity? s.current.entity = some e) (hid : s.current.id.isSome)
    (hdecides : d.Decides e s) : s.holds q.criteria = true ↔ d.Selects e s := by
  obtain ⟨hidentified, hunqualified, hnamed⟩ := hselectable
  obtain ⟨f, hselection, hcompile⟩ := criteria_of_build he hbuild
  obtain ⟨included, excluded, named, hincluded, hexcluded, hread, rfl⟩ :=
    selection_eq_ok hselection
  -- each part by itself
  have hfilter : AllMean (d.target e) s included _ :=
    allMean_readFilter hincluded fun j hj => hdecides j (.inl hj)
  have hexclude : AnyMeans (d.target e) s excluded _ :=
    anyMeans_readFilter hexcluded fun j hj => hdecides j (.inr hj)
  have hexcludeIds : AnyMeans (d.target e) s (idFilter e.primaryId d.excludeIds) _ :=
    anyMeans_idFilter hidentified hrecord d.excludeIds fun h => hunqualified (.inr h)
  have hids : AllMean (d.target e) s (idFilter e.primaryId d.ids) _ :=
    allMean_idFilter hidentified hrecord d.ids fun h => hunqualified (.inl h)
  have hnames := allMean_nameFilter hread hrecord hnamed
  -- all parts, in the order in which the selection has them
  have hall := ((hfilter.append (hexclude.append hexcludeIds).exclusion).append hids).append hnames
  rw [hall.holds_iff (nothingIn_target hrecord hid) hcompile]
  constructor
  · rintro ⟨⟨⟨hfilter, hnot⟩, hone⟩, hname⟩
    exact ⟨hfilter, hnot, hone, hname⟩
  · rintro ⟨hfilter, hnot, hone, hname⟩
    exact ⟨⟨⟨hfilter, hnot⟩, hone⟩, hname⟩

namespace Sample

/-- Contacts with a name and an age. -/
def contact : Entity :=
  let e := (Entity.ofName "contact").declare (.ofType "fullname" .string)
  { e.declare (.ofType "age" .integer) with primaryName := some "fullname" }

/-- Adults that are called Ann or Bob and have one of two identities, without Bob. -/
def draft : QueryDraft :=
  { ofEntity "contact" with
    filter := some (.object [("age",
      .object [("operator", .string "GreaterThan"), ("value", .int 17)])])
    excludeFilter := some (.object [("fullname", .string "Bob")])
    ids := [.numbered 1, .numbered 2]
    names := ["bob", "ann"]
    excludeIds := [.numbered 3] }

/-- A contact who is called Ann and is thirty. -/
def ann : Record :=
  ⟨"contact", some (.numbered 1),
    .ofList [("fullname", .text (some "Ann")), ("age", .int32 (some 30))]⟩

/-- A record by itself, and what is declared about it. -/
def scope (e : Entity) (r : Record) : Scope :=
  .ofRow (.ofCatalog (Catalog.empty.insert e)) (.ofRecord r)

/-- The draft goes by attributes that the entity of contacts has. -/
theorem selectable_draft : draft.Selectable contact where
  identified := ⟨_, rfl, rfl⟩
  unqualified := fun _ => by decide
  named := fun _ => ⟨"fullname", _, rfl, rfl, rfl, by decide⟩

/-- The filters of the draft can be decided about Ann: only her age is compared by order. -/
theorem decides_draft : draft.Decides contact (scope contact ann) := by
  rintro j (⟨⟨⟩⟩ | ⟨⟨⟩⟩) f hf
  · cases hf
    exact ⟨decides_condition (c := ⟨none, "age", .greaterThan, [.int32 (some 17)]⟩) rfl
      fun _ _ => by decide +kernel, trivial⟩
  · cases hf
    exact ⟨decides_condition (c := ⟨none, "fullname", .equal, [.text (some "Bob")]⟩) rfl nofun,
      trivial⟩

/-- The record of Ann is selected by every part of the draft. -/
theorem selects_draft : draft.Selects contact (scope contact ann) where
  filter := by
    rintro j ⟨⟩
    exact ⟨_, rfl, by decide +kernel⟩
  excluded := by
    rintro (⟨j, ⟨⟩, f, hf, hmeaning⟩ | ⟨id, hid, heq⟩)
    · cases hf
      exact absurd hmeaning (by decide +kernel)
    · revert id
      decide +kernel
  ids := fun _ => ⟨.numbered 1, by decide +kernel, rfl⟩
  names := fun _ => ⟨"fullname", rfl, "ann", by decide, by decide +kernel⟩

/-- Contacts whose identifying attribute has a point in its name. -/
def pointed : Entity :=
  { Entity.ofName "contact" with
    primaryId := "x.id"
    attributes := [.ofType "x.id" .uniqueidentifier] }

/-- The contact of an identity. -/
def single : QueryDraft :=
  { ofEntity "contact" with ids := [.numbered 1] }

/-- The record is selected by its identity, although the attribute that holds it has a point in its
name. -/
theorem selects_single : single.Selects pointed (scope pointed ann) where
  filter := nofun
  excluded := by
    rintro (⟨j, ⟨⟩, -⟩ | ⟨id, hid, -⟩)
    exact nomatch hid
  ids := fun _ => ⟨.numbered 1, List.mem_singleton_self _, rfl⟩
  names := absurd rfl

end Sample

/-- The criteria of all parts hold on a contact that is selected. -/
theorem holds_build_contact :
    (Catalog.empty.insert Sample.contact).entity? Sample.draft.entity = some Sample.contact ∧
      Sample.draft.Selectable Sample.contact ∧
      Sample.draft.Decides Sample.contact (Sample.scope Sample.contact Sample.ann) ∧
      ∃ q, Sample.draft.build (Catalog.empty.insert Sample.contact) = .ok q ∧
        (Sample.scope Sample.contact Sample.ann).holds q.criteria = true := by
  have he : (Catalog.empty.insert Sample.contact).entity? Sample.draft.entity =
      some Sample.contact := by decide +kernel
  obtain ⟨q, hq⟩ : ∃ q, Sample.draft.build (Catalog.empty.insert Sample.contact) = .ok q :=
    ⟨_, rfl⟩
  refine ⟨he, Sample.selectable_draft, Sample.decides_draft, q, hq, ?_⟩
  have hrecord : (Sample.scope Sample.contact Sample.ann).tables.catalog.entity? "contact" =
      some Sample.contact := by decide +kernel
  exact (holds_build he Sample.selectable_draft hq hrecord rfl Sample.decides_draft).2
    Sample.selects_draft

/-- A point in the name of the identifying attribute makes it look like the attribute of a link, and
the criteria of an identity do not hold on the contact that has it. -/
theorem holds_build_pointed :
    (Catalog.empty.insert Sample.pointed).entity? Sample.single.entity = some Sample.pointed ∧
      (∃ a, Sample.pointed.attribute? Sample.pointed.primaryId = some a ∧
        a.type = .uniqueidentifier) ∧
      Sample.ann.id.isSome ∧
      Sample.single.Decides Sample.pointed (Sample.scope Sample.pointed Sample.ann) ∧
      ∃ q, Sample.single.build (Catalog.empty.insert Sample.pointed) = .ok q ∧
        ¬((Sample.scope Sample.pointed Sample.ann).holds q.criteria = true ↔
          Sample.single.Selects Sample.pointed (Sample.scope Sample.pointed Sample.ann)) := by
  have hdecides : Sample.single.Decides Sample.pointed
      (Sample.scope Sample.pointed Sample.ann) := by
    rintro j (⟨⟨⟩⟩ | ⟨⟨⟩⟩)
  obtain ⟨q, hq, hnone⟩ : ∃ q, Sample.single.build (Catalog.empty.insert Sample.pointed) = .ok q ∧
      (Sample.scope Sample.pointed Sample.ann).holds q.criteria = false :=
    ⟨_, rfl, by decide +kernel⟩
  refine ⟨by decide +kernel, ⟨_, rfl, rfl⟩, rfl, hdecides, q, hq, fun hiff => ?_⟩
  exact absurd (hiff.2 Sample.selects_single) (by rw [hnone]; decide)

end QueryDraft

end RecordService
