import RecordService.Proofs.Pipeline.AtMostOnce
import RecordService.Proofs.Store.Places

namespace RecordService

/-!
# Protected attributes

Some names are never written, and some are written to new records only. Whatever operation an
input leads to, its request has none of them that the operation leaves alone; and a record that
exists is never created. So a run changes no record in such an attribute, however often requests
are sent and in whatever order.

* `WriteOptions.protects`, `WriteOptions.Spares`: what an operation leaves alone.
* `Classifier.spares_items`: the classification of inputs leaves it alone.
* `Record.entriesNamed`: the values of a name, in any spelling.
* `Application.entriesNamed_after`: what an application leaves as it was.
* `Pipeline.entriesNamed_of_recorded`: what a run leaves as it was.
-/

/-! ### Names that an operation leaves alone -/

/-- Case makes no difference to whether a name is among others. -/
theorem isNameIn_congr {names : List String} {m n : String} (h : Text.eqIgnoreCase m n = true) :
    isNameIn names m = isNameIn names n := by
  have hfold := Text.eqIgnoreCase_iff.1 h
  simp only [isNameIn, Text.eqIgnoreCase, hfold]

namespace WriteOptions

/-- Whether an operation leaves the attributes of a name alone. -/
def protects (o : WriteOptions) (operation : Operation) (name : String) : Bool :=
  o.isIgnored name || (operation != .create && o.isCreateOnly name)

/-- Case makes no difference to whether a name is protected. -/
theorem protects_congr (o : WriteOptions) (operation : Operation) {m n : String}
    (h : Text.eqIgnoreCase m n = true) : o.protects operation m = o.protects operation n := by
  simp only [protects, isIgnored, isCreateOnly, isNameIn_congr h]

/-- Whether a record has no attributes that an operation leaves alone. -/
def Spares (o : WriteOptions) (operation : Operation) (r : Record) : Prop :=
  ∀ entry ∈ r.attributes.entries, o.protects operation entry.1 = false

/-- Setting an attribute that is not protected leaves those that are. -/
theorem Spares.set {o : WriteOptions} {operation : Operation} {r : Record}
    (h : o.Spares operation r) {name : String} (hname : o.protects operation name = false)
    (v : Value) : o.Spares operation (r.set name v) := by
  intro entry hentry
  rcases Dict.mem_put hentry with rfl | hold
  · exact hname
  · exact h entry hold

end WriteOptions

/-! ### Classification -/

namespace Classifier

variable {σ : Type}

/-- The values of an input are set under declared names, unless the operation leaves them alone. -/
theorem spares_setValues {c : Classifier} {operation : Operation}
    {entries : List (String × InputValue)} {r r' : Record}
    (h : c.setValues operation entries r = .ok r') (hr : c.options.Spares operation r) :
    c.options.Spares operation r' := by
  induction entries generalizing r with
  | nil =>
    cases h
    exact hr
  | cons entry entries ih =>
    unfold setValues at h
    by_cases hskips : c.skips operation entry.1 = true
    · rw [if_pos hskips] at h
      exact ih h hr
    · rw [if_neg hskips] at h
      cases ha : c.entity.attribute? entry.1 with
      | none =>
        rw [ha] at h
        cases h
      | some a =>
        rw [ha] at h
        obtain ⟨v, -, h⟩ := Answer.bind_eq_ok.1 h
        have hname : c.options.protects operation a.name = false := by
          rw [c.options.protects_congr operation (Entity.eqIgnoreCase_of_attribute? ha)]
          simp only [skips, Bool.or_eq_true, not_or, Bool.not_eq_true] at hskips
          rw [WriteOptions.protects, hskips.1.2, hskips.2]
          rfl
        exact ih h (hr.set hname v)

/-- What is cleared may be changed by every operation. -/
theorem spares_clearMissing {c : Classifier} {operation : Operation} {r : Record}
    (hr : c.options.Spares operation r) : c.options.Spares operation (c.clearMissing r) := by
  unfold clearMissing
  induction c.entity.attributes generalizing r with
  | nil => exact hr
  | cons a attributes ih =>
    rw [List.foldl_cons]
    apply ih
    by_cases hclears : c.clears r a = true
    · rw [if_pos hclears]
      apply hr.set
      simp only [clears, Bool.and_eq_true, Bool.not_eq_true'] at hclears
      simp [WriteOptions.protects, hclears]
    · rwa [if_neg hclears]

/-- The record of a request has nothing that the operation leaves alone. -/
theorem spares_record {c : Classifier} {i : Input} {decision : Decision} {r : Record}
    (h : c.record i decision = .ok r) : c.options.Spares decision.1 r := by
  obtain ⟨operation, id⟩ := decision
  obtain ⟨set, hset, h⟩ := Answer.bind_eq_ok.1 h
  have hspares : c.options.Spares operation set := by
    apply spares_setValues hset
    intro entry hentry
    cases hentry
  cases h
  dsimp only
  split
  · exact spares_clearMissing hspares
  · exact hspares

/-- The items of an input leave out what is protected. -/
theorem spares_itemsOf {c : Classifier} {index : Nat} {i : Input} {decisions : List Decision}
    {last : Nat} {items : List WriteItem} (h : (c.itemsOf index i decisions last).1 = .ok items) :
    ∀ item ∈ items, c.options.Spares item.request.operation item.request.record := by
  induction decisions generalizing last items with
  | nil =>
    cases h
    simp
  | cons decision decisions ih =>
    unfold itemsOf at h
    cases hitem : c.item (last + 1) index i decision with
    | error e =>
      rw [hitem] at h
      cases h
    | ok item =>
      rw [hitem] at h
      obtain ⟨rest, hrest, rfl⟩ := Answer.map_eq_ok.1 h
      rw [List.forall_mem_cons]
      refine ⟨?_, ih hrest⟩
      obtain ⟨r, hr, hmade⟩ := Answer.bind_eq_ok.1 hitem
      cases hmade
      exact spares_record (Answer.mapError_eq_ok.1 hr)

/-- **Classification.** The requests of an input have nothing that their operations leave alone,
whatever the input matched. -/
theorem spares_items {c : Classifier} {service : Service σ} {index : Nat} {i : Input}
    {last last' : Nat} {w w' : World σ} {items : List WriteItem}
    (h : (c.items service index i last).runOn w = (.ok (.ok items, last'), w')) :
    ∀ item ∈ items, c.options.Spares item.request.operation item.request.record := by
  obtain ⟨result, u, -, h⟩ := Call.bind_eq_ok h
  cases result with
  | error e => cases h
  | ok decisions =>
    have hitems : c.itemsOf index i decisions last = (.ok items, last') :=
      Except.ok.inj (congrArg Prod.fst h)
    exact spares_itemsOf (congrArg Prod.fst hitems)

end Classifier

/-! ### Values of a name -/

namespace Record

/-- The entries of a name in all its spellings. -/
def entriesNamed (r : Record) (name : String) : List (String × Value) :=
  r.attributes.entries.filter fun entry => Text.eqIgnoreCase entry.1 name

/-- Attributes that are set change no value of another name. -/
theorem entriesNamed_setAll {r : Record} {e : Entity} {entries : List (String × Value)}
    {name : String} (h : ∀ entry ∈ entries, Text.eqIgnoreCase entry.1 name = false) :
    (r.setAll e entries).entriesNamed name = r.entriesNamed name := by
  induction entries generalizing r with
  | nil => rfl
  | cons entry entries ih =>
    rw [List.forall_mem_cons] at h
    have hspelling : Text.eqIgnoreCase (e.spelling entry.1) name = false := by
      rw [← h.1]
      simp only [Text.eqIgnoreCase, Text.eqIgnoreCase_iff.1 (e.eqIgnoreCase_spelling entry.1)]
    have hset : (r.set (e.spelling entry.1) entry.2).entriesNamed name = r.entriesNamed name :=
      Dict.filter_insert (p := (Text.eqIgnoreCase · name)) entry.2 hspelling
    exact (ih h.2).trans hset

end Record

/-! ### Applications -/

/-- The place that an application writes to. -/
def Application.place (a : Application) : Place :=
  ⟨Text.lower a.request.record.entity, some a.response.id⟩

/-- An application changes no record but the one in its place. -/
theorem Application.at?_after (a : Application) :
    ∃ e, a.before.entity a.request.record.entity = .ok e ∧
      a.before.checkExistence e a.request = .ok () ∧
      ∀ place, a.after.tables.at? place =
        if place = a.place then some (a.before.revised e a.response.id a.request.record)
        else a.before.tables.at? place := by
  obtain ⟨e, he, hexists, -, -, hafter⟩ := Store.write_eq_ok.1 a.carried
  have hname := Catalog.lower_of_entity? (Store.entity_eq_ok.1 he)
  refine ⟨e, he, hexists, ?_⟩
  intro place
  rw [congrArg Store.tables hafter]
  dsimp only
  rw [Tables.at?_put, Store.id_revised, hname, Application.place]

/-- A record that an application finds in its place gets the attributes of the request, and it is
not created if the request has named it. -/
theorem Application.at?_after_of_some (a : Application) {r : Record}
    (hr : a.before.tables.at? a.place = some r) :
    (a.request.record.id ≠ none → a.request.operation ≠ .create) ∧
      ∃ e, a.after.tables.at? a.place = some (r.setAll e a.request.record.attributes.entries) := by
  obtain ⟨e, he, hexists, hafter⟩ := a.at?_after
  have hfound : a.before.tables.find? e.name a.response.id = some r := by
    rw [Tables.find?_eq_at?, Catalog.lower_of_entity? (Store.entity_eq_ok.1 he)]
    exact hr
  constructor
  · -- it would have been refused
    intro hid hcreate
    obtain ⟨id, hid⟩ := Option.ne_none_iff_exists'.1 hid
    have hgiven : a.response.id = id := by
      obtain ⟨_, -, -, -, hresponse, -⟩ := Store.write_eq_ok.1 a.carried
      rw [hresponse, Store.identify, hid]
    unfold Store.checkExistence Store.existing? at hexists
    rw [hcreate, hid, Option.bind_some, ← hgiven, hfound] at hexists
    cases hexists
  · refine ⟨e, ?_⟩
    rw [hafter, if_pos rfl, Store.revised, hfound, Option.getD_some]

/-- An application leaves the values of ignored names as they were. Those of names that are written
to new records only it leaves as they were unless it takes the record for a new one. -/
theorem Application.entriesNamed_after (a : Application) {o : WriteOptions}
    (hspares : o.Spares a.request.operation a.request.record) {name : String} {place : Place}
    (hname : o.isIgnored name = true ∨
      o.isCreateOnly name = true ∧ (a.request.record.id = none → place ≠ a.place)) {r : Record}
    (hr : a.before.tables.at? place = some r) :
    ∃ r', a.after.tables.at? place = some r' ∧ r'.entriesNamed name = r.entriesNamed name := by
  by_cases hplace : place = a.place
  · subst hplace
    obtain ⟨hoperation, e, hafter⟩ := a.at?_after_of_some hr
    refine ⟨_, hafter, Record.entriesNamed_setAll ?_⟩
    have hprotects : o.protects a.request.operation name = true := by
      rcases hname with h | ⟨h, hnew⟩
      · simp [WriteOptions.protects, h]
      · have hid : a.request.record.id ≠ none := fun hnone => hnew hnone rfl
        simp [WriteOptions.protects, h, hoperation hid]
    -- an attribute that is set is not protected, and so it has another name
    intro entry hentry
    by_contra hsame
    have hset := hspares entry hentry
    rw [o.protects_congr _ (Bool.of_not_eq_false hsame), hprotects] at hset
    cases hset
  · obtain ⟨e, -, -, hafter⟩ := a.at?_after
    exact ⟨r, by rw [hafter, if_neg hplace, hr], rfl⟩

/-! ### Runs -/

namespace Pipeline

variable {p : Pipeline Store}

/-- The requests of all inputs have nothing that their operations leave alone. -/
theorem spares_classifiedItems {s t : Run Store} {readings : List Reading}
    {log : List Application} (hrun : p.Recorded s readings log t) :
    ∀ i ∈ classifiedItems readings, p.options.Spares i.request.operation i.request.record := by
  induction hrun with
  | start => simp [classifiedItems]
  | @next readings log applied t u r _ hstep ih =>
    intro i hi
    rw [classifiedItems, List.flatMap_append] at hi
    rcases List.mem_append.1 hi with hi | hi
    · exact ih i hi
    · -- the items of the input that is read in this step
      cases hstep with
      | other hstep _ =>
        cases r with
        | none => cases hi
        | some r =>
          obtain ⟨-, -, -, w, w', hclassified⟩ := extent_read hstep
          rw [Option.toList_some, List.flatMap_singleton] at hi
          cases hresult : r.result with
          | error e =>
            rw [Reading.items, hresult] at hi
            cases hi
          | ok items =>
            rw [Reading.items, hresult] at hi
            rw [hresult] at hclassified
            exact Classifier.spares_items hclassified i hi
      | _ => cases hi

/-- Whether no record was kept under an identity that is given out to a new one. -/
def FreshIdentities (tables : Tables) (log : List Application) : Prop :=
  ∀ a ∈ log, a.request.record.id = none → tables.at? a.place = none

instance (tables : Tables) (log : List Application) : Decidable (FreshIdentities tables log) :=
  inferInstanceAs
    (Decidable (∀ a ∈ log, a.request.record.id = none → tables.at? a.place = none))

/-- **Protection.** However the steps of a run into a store are ordered, whatever faults are
injected and whenever the run is cancelled: a record that was kept before is kept afterwards, and
under a name that the options ignore or write to new records only, in any spelling, it has the
same values. The latter takes identities that are given out to be new. -/
theorem entriesNamed_of_recorded (hservice : p.service = Store.service) {w : World Store}
    {cancelAt : Option Nat} {inputs : List Input} {readings : List Reading}
    {log : List Application} {s : Run Store}
    (hrun : p.Recorded { p.start w inputs with cancelAt } readings log s)
    {name : String} (hname : p.options.isIgnored name = true ∨
      p.options.isCreateOnly name = true ∧ FreshIdentities w.state.tables log)
    {entity : String} {id : Uuid} {r : Record}
    (hr : w.state.tables.find? entity id = some r) :
    ∃ r', s.world.state.tables.find? entity id = some r' ∧
      r'.entriesNamed name = r.entriesNamed name := by
  have hattributed := attributed_of_recorded hservice hrun
  refine hattributed.replays.keeps
    (P := fun ts => ∃ r', ts.find? entity id = some r' ∧ r'.entriesNamed name = r.entriesNamed name)
    ?_ ⟨r, hr, rfl⟩
  rintro a ha ⟨old, hold, hsame⟩
  obtain ⟨i, hi, -, hrequest⟩ := hattributed.requests a ha
  have hspares := spares_classifiedItems hrun i hi
  rw [hrequest] at hspares
  have hnew : FreshIdentities w.state.tables log → a.request.record.id = none →
      (⟨Text.lower entity, some id⟩ : Place) ≠ a.place := by
    intro hfresh hnone heq
    have hmissing := hfresh a ha hnone
    rw [← heq, ← Tables.find?_eq_at?, hr] at hmissing
    cases hmissing
  obtain ⟨r', hr', hkept⟩ :=
    a.entriesNamed_after hspares (hname.imp_right (And.imp_right hnew)) hold
  exact ⟨r', hr', hkept.trans hsame⟩

/-- A note has an author and a rank. -/
def authoredNote : Entity :=
  ((Entity.ofName "note").declare (.ofType "author" .string)).declare (.ofType "rank" .integer)

/-- A store with one note. -/
def oneNote : Store :=
  ((Store.ofEntities [authoredNote]).insert
    ⟨"note", some (.numbered 7),
      .ofList [("author", .text (some "first")), ("rank", .int32 (some 1))]⟩).2

/-- A pipeline that leaves the authors of notes alone, and clears everything else that an input
does not have. -/
def keepingAuthors : Pipeline Store where
  service := Store.service
  entity := authoredNote
  options :=
    { WriteOptions.standard with
      batchSize := 2
      createOnlyNames := ["AUTHOR"]
      updateAllColumns := true }
  gap := 0
  cancels := fun _ => false

/-- The same author for the note that there is, and for a new one. -/
def secondAuthor : List Input :=
  [⟨.ofList [("Id", .typed (.uuid (some (.numbered 7)))),
      ("Author", .typed (.text (some "second")))]⟩,
    ⟨.ofList [("Author", .typed (.text (some "second")))]⟩]

/-- The old note keeps its author and loses its rank. -/
theorem entriesNamed_of_recorded_author :
    ∃ readings log s r,
      keepingAuthors.Recorded
        { keepingAuthors.start ⟨oneNote, []⟩ secondAuthor with cancelAt := none } readings log s ∧
      log.map (·.request.operation) = [.update, .create] ∧
      s.world.state.tables.find? "note" (.numbered 7) = some r ∧
      r.entriesNamed "AUTHOR" = [("author", .text (some "first"))] ∧
      r.entriesNamed "rank" = [("rank", .int32 none)] ∧
      (s.world.state.tables.records "note").length = 2 := by
  have h₀ : keepingAuthors.Recorded
      { keepingAuthors.start ⟨oneNote, []⟩ secondAuthor with cancelAt := none } [] [] _ := .start
  have h₁ := h₀.next (.other (.read (.inl ⟨rfl, rfl⟩) rfl rfl nofun) (.of_workers rfl))
  have h₂ := h₁.next (.other (.produce rfl rfl) (.of_workers rfl))
  have h₃ := h₂.next (.other (.produce rfl rfl) (.of_workers rfl))
  have h₄ := h₃.next (.other (.read (.inl ⟨rfl, rfl⟩) rfl rfl nofun) (.of_workers rfl))
  have h₅ := h₄.next (.other (.produce rfl rfl) (.of_workers rfl))
  have h₆ := h₅.next (.other (.produce rfl rfl) (.of_workers rfl))
  have h₇ := h₆.next (.other (.receive (Run.worker_of_singleton rfl) rfl)
    (keepsCalling_receive (Run.worker_of_singleton rfl)))
  have h := h₇.next (.answer (Run.worker_of_singleton rfl) rfl)
  have hname : keepingAuthors.options.isCreateOnly "AUTHOR" = true := rfl
  have hold : oneNote.tables.find? "note" (.numbered 7) =
      some ⟨"note", some (.numbered 7),
        .ofList [("author", .text (some "first")), ("rank", .int32 (some 1))]⟩ := rfl
  obtain ⟨r, hr, hkept⟩ := entriesNamed_of_recorded rfl h (.inr ⟨hname, by decide⟩) hold
  cases hr
  exact ⟨_, _, _, _, h, rfl, rfl, hkept, rfl, rfl⟩

end Pipeline

end RecordService
