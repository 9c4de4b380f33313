import RecordService.Proofs.Store.Calls
import RecordService.Reading

namespace RecordService

/-!
# Names that are remembered

The names of referenced records are asked of the service once and remembered, whether there is a
name or not. As long as the service always answers the same, remembering makes no difference to what
is put out: every record is put out as it would be by itself, and no name is asked for again once
the service has answered.

* `Naming.runOn_bind`, `Reference.runOn_fetchName`: running calls that remember names.
* `Naming.Answers`, `Naming.Agree`: calls whose answer does not depend on what is remembered.
* `Service.Steady`, `Reference.asked`: services that always answer the same, and the name that such
  a service has for a record.
* `ColumnPlan.rowAll`: the objects of some records, with the names that are learned on the way.
* `Service.logged`: a service that keeps a log of what it is asked to retrieve.
* `ColumnPlan.rowAll_eq_map`: every record as by itself, and every name asked for once.
* `Store.steady_service`: a store is steady as long as its tables stay the same.
-/

variable {σ τ α β : Type}

/-! ### Running calls that remember names -/

namespace Naming

/-- Run a call with the names that are known. -/
def runOn (names : NameCache) (w : World σ) (c : Naming σ α) : (Answer α × NameCache) × World σ :=
  c.run.run names w

/-- A call that goes on with an answer knows the names that were learned before. -/
theorem runOn_bind (names : NameCache) (w : World σ) (c : Naming σ α) (f : α → Naming σ β) :
    runOn names w (c >>= f) =
      match runOn names w c with
      | ((.ok a, names), w) => runOn names w (f a)
      | ((.error e, names), w) => ((.error e, names), w) := by
  simp only [runOn, ExceptT.run, bind, ExceptT.bind, ExceptT.mk, StateT.run, StateT.bind,
    ExceptT.bindCont]
  cases c names w with
  | mk answered w' =>
    obtain ⟨r, names'⟩ := answered
    cases r <;> rfl

/-- A call to the service leaves the names that are known. -/
@[simp] theorem runOn_ofCall (names : NameCache) (w : World σ) (c : Call σ α) :
    runOn names w (ofCall c) = (((c.runOn w).1, names), (c.runOn w).2) := rfl

/-- Whether a call has an answer wherever something is true of the names and of the world, and
leaves that true. -/
def Answers (I : NameCache → World σ → Prop) (c : Naming σ α) (answer : Answer α) : Prop :=
  ∀ names w, I names w →
    (runOn names w c).1.1 = answer ∧ I (runOn names w c).1.2 (runOn names w c).2

/-- An answer that is there already does not depend on the names, nor does it change them. -/
theorem answers_ofAnswer (I : NameCache → World σ → Prop) (r : Answer α) :
    Answers I (ofCall (.ofAnswer r)) r :=
  fun _ _ h => ⟨rfl, h⟩

section

variable {I : NameCache → World σ → Prop} {c : Naming σ α} {f : α → Naming σ β}

/-- A call with a known result goes on to the answer of what follows. -/
theorem Answers.bind {a : α} {answer : Answer β} (hc : c.Answers I (.ok a))
    (hf : (f a).Answers I answer) : Answers I (c >>= f) answer := by
  intro names w h
  obtain ⟨hanswer, hkept⟩ := hc names w h
  rw [runOn_bind]
  generalize runOn names w c = ran at hanswer hkept
  obtain ⟨⟨r, names'⟩, w'⟩ := ran
  cases hanswer
  exact hf names' w' hkept

/-- A call with a known failure fails, whatever would follow. -/
theorem Answers.bind_error {e : Failure} (hc : c.Answers I (.error e)) :
    Answers I (c >>= f) (.error e) := by
  intro names w h
  obtain ⟨hanswer, hkept⟩ := hc names w h
  rw [runOn_bind]
  generalize runOn names w c = ran at hanswer hkept
  obtain ⟨⟨r, names'⟩, w'⟩ := ran
  cases hanswer
  exact ⟨rfl, hkept⟩

end

/-- Whether two calls have the same answer, each where something is true of its names and of its
world. -/
def Agree (I : NameCache → World σ → Prop) (J : NameCache → World τ → Prop) (c : Naming σ α)
    (c' : Naming τ α) : Prop :=
  ∃ answer, c.Answers I answer ∧ c'.Answers J answer

section

variable {I : NameCache → World σ → Prop} {J : NameCache → World τ → Prop}

/-- Values that are returned agree. -/
theorem agree_pure (a : α) : Agree I J (pure a) (pure a) :=
  ⟨.ok a, fun _ _ h => ⟨rfl, h⟩, fun _ _ h => ⟨rfl, h⟩⟩

/-- An answer that is there already agrees with itself. -/
theorem agree_ofAnswer (r : Answer α) :
    Agree I J (ofCall (.ofAnswer r)) (ofCall (.ofAnswer r)) :=
  ⟨r, answers_ofAnswer I r, answers_ofAnswer J r⟩

/-- Calls that go on with the same answer in ways that agree. -/
theorem Agree.bind {c : Naming σ α} {c' : Naming τ α} {f : α → Naming σ β} {f' : α → Naming τ β}
    (hc : Agree I J c c') (hf : ∀ a, Agree I J (f a) (f' a)) :
    Agree I J (c >>= f) (c' >>= f') := by
  obtain ⟨answer, hc, hc'⟩ := hc
  cases answer with
  | error e => exact ⟨.error e, hc.bind_error, hc'.bind_error⟩
  | ok a =>
    obtain ⟨answer, hfirst, hsecond⟩ := hf a
    exact ⟨answer, hc.bind hfirst, hc'.bind hsecond⟩

end

end Naming

/-! ### Names -/

namespace Reference

/-- A name that is not known is asked of the service, and it is remembered if there is an answer. -/
theorem runOn_fetchName (service : Service σ) {r : Reference} (hname : r.name = none)
    (names : NameCache) (w : World σ) :
    Naming.runOn names w (r.fetchName service) =
      match names.lookup r.cacheKey with
      | some name => ((.ok name, names), w)
      | none =>
        match (r.askName service).runOn w with
        | (.ok name, w) => ((.ok name, (r.cacheKey, name) :: names), w)
        | (.error e, w) => ((.error e, names), w) := by
  have hget : Naming.runOn names w (get : Naming σ NameCache) = ((.ok names, names), w) := rfl
  rw [fetchName, hname]
  dsimp only
  rw [Naming.runOn_bind, hget]
  dsimp only
  cases names.lookup r.cacheKey with
  | some name => rfl
  | none =>
    dsimp only
    rw [Naming.runOn_bind, Naming.runOn_ofCall]
    generalize (r.askName service).runOn w = ran
    obtain ⟨answer, w'⟩ := ran
    cases answer <;> rfl

/-- To ask for a name is to ask for the entity, and then for the record if the entity has names. -/
theorem runOn_askName (service : Service σ) (r : Reference) (w : World σ) :
    ∃ journal, (r.askName service).runOn w =
      match (service.metadata r.entity).runOn w with
      | (.error e, w) => (.error e, w)
      | (.ok e, w) =>
        match e.primaryName with
        | none => (.ok none, { w with journal })
        | some primaryName =>
          match (service.retrieve r.entity r.id (.only [primaryName])).runOn w with
          | (.error e, w) => (.error e, w)
          | (.ok found, w) => (.ok (found.bind (textOf · primaryName)), { w with journal }) := by
  unfold askName
  rw [Call.runOn_bind]
  generalize (service.metadata r.entity).runOn w = described
  obtain ⟨answer, w'⟩ := described
  cases answer with
  | error e => exact ⟨[], rfl⟩
  | ok e =>
    dsimp only
    cases e.primaryName with
    | none => exact ⟨_, rfl⟩
    | some primaryName =>
      dsimp only
      rw [Call.runOn_bind]
      generalize (service.retrieve r.entity r.id (.only [primaryName])).runOn w' = found
      obtain ⟨answer, w''⟩ := found
      cases answer with
      | error e => exact ⟨[], rfl⟩
      | ok found => exact ⟨_, rfl⟩

/-- What is true of names that were learned from a service, which has them by `asked`: a name that
is remembered is the one that the service has, and to learn another one leaves that true. -/
structure Learned (service : Service σ) (asked : Reference → Answer (Option String))
    (I : NameCache → World σ → Prop) : Prop where
  known : ∀ names w (r : Reference) name, I names w → names.lookup r.cacheKey = some name →
    asked r = .ok name
  learn : ∀ names w (r : Reference), I names w → names.lookup r.cacheKey = none →
    match (r.askName service).runOn w with
    | (.ok name, w) => asked r = .ok name ∧ I ((r.cacheKey, name) :: names) w
    | (.error e, w) => asked r = .error e ∧ I names w

/-- Whether it is remembered or not, the name is the one that the service has. -/
theorem Learned.answers {service : Service σ} {asked : Reference → Answer (Option String)}
    {I : NameCache → World σ → Prop} (h : Learned service asked I) (r : Reference) :
    (r.fetchName service).Answers I
      (match r.name with
        | some name => .ok (some name)
        | none => asked r) := by
  intro names w hI
  cases hname : r.name with
  | some name =>
    rw [fetchName, hname]
    exact ⟨rfl, hI⟩
  | none =>
    rw [runOn_fetchName service hname]
    cases hlookup : names.lookup r.cacheKey with
    | some name => exact ⟨(h.known names w r name hI hlookup).symm, hI⟩
    | none =>
      have hlearn := h.learn names w r hI hlookup
      dsimp only
      generalize (r.askName service).runOn w = ran at hlearn
      obtain ⟨answer, w'⟩ := ran
      cases answer with
      | ok name => exact ⟨hlearn.1.symm, hlearn.2⟩
      | error e => exact ⟨hlearn.1.symm, hlearn.2⟩

end Reference

/-! ### Rows -/

namespace ColumnPlan

section

variable {service : Service σ} {service' : Service τ} {asked : Reference → Answer (Option String)}
  {I : NameCache → World σ → Prop} {J : NameCache → World τ → Prop}

/-- The name of a reference is put out the same, whatever is remembered. -/
theorem agree_renderName (hI : Reference.Learned service asked I)
    (hJ : Reference.Learned service' asked J) (a : Attribute) (format : ColumnFormat)
    (r : Reference) :
    Naming.Agree I J (renderName service a format r) (renderName service' a format r) := by
  refine Naming.Agree.bind ⟨_, hI.answers r, hJ.answers r⟩ fun name => ?_
  cases name with
  | some name => exact Naming.agree_pure _
  | none =>
    dsimp only
    split
    · exact Naming.agree_ofAnswer _
    · exact Naming.agree_pure _

/-- The value of a column is put out the same, whatever is remembered. -/
theorem agree_cell (hI : Reference.Learned service asked I)
    (hJ : Reference.Learned service' asked J) (p : ColumnPlan) (r : Record) (a : Attribute)
    (c : Column) : Naming.Agree I J (p.cell service r a c) (p.cell service' r a c) := by
  unfold cell
  dsimp only
  split
  · split
    · exact agree_renderName hI hJ a c.format _
    · exact Naming.agree_ofAnswer _
  · exact Naming.agree_ofAnswer _

/-- The columns of a record are put out the same, one after the other. -/
theorem agree_cells (hI : Reference.Learned service asked I)
    (hJ : Reference.Learned service' asked J) (p : ColumnPlan) (r : Record)
    (columns : List Column) (row : Dict Json) :
    Naming.Agree I J (p.cells service r columns row) (p.cells service' r columns row) := by
  induction columns generalizing row with
  | nil => exact Naming.agree_pure row
  | cons c columns ih =>
    unfold cells
    cases p.entity.attribute? c.name with
    | none => exact ih row
    | some a => exact (agree_cell hI hJ p r a c).bind fun j => ih (row.insert c.outputName j)

/-- The object of a record does not depend on what is remembered. -/
theorem agree_row (hI : Reference.Learned service asked I)
    (hJ : Reference.Learned service' asked J) (p : ColumnPlan) (r : Record) :
    Naming.Agree I J (p.row service r) (p.row service' r) :=
  (agree_cells hI hJ p r p.columns .empty).bind fun _ => Naming.agree_pure _

end

/-- The objects of some records, with the names that are learned on the way. A record that has none
does not stop those after it. -/
def rowAll (p : ColumnPlan) (service : Service σ) :
    List Record → NameCache → World σ → (List (Answer (Dict Json)) × NameCache) × World σ
  | [], names, w => (([], names), w)
  | r :: records, names, w =>
    let ((answer, names), w) := Naming.runOn names w (p.row service r)
    let ((answers, names), w) := rowAll p service records names w
    ((answer :: answers, names), w)

/-- The names that a record teaches are known to the records after it. -/
theorem rowAll_cons (p : ColumnPlan) (service : Service σ) (r : Record) (records : List Record)
    (names : NameCache) (w : World σ) :
    p.rowAll service (r :: records) names w =
      (((Naming.runOn names w (p.row service r)).1.1 ::
          (p.rowAll service records (Naming.runOn names w (p.row service r)).1.2
            (Naming.runOn names w (p.row service r)).2).1.1,
        (p.rowAll service records (Naming.runOn names w (p.row service r)).1.2
          (Naming.runOn names w (p.row service r)).2).1.2),
        (p.rowAll service records (Naming.runOn names w (p.row service r)).1.2
          (Naming.runOn names w (p.row service r)).2).2) := rfl

/-- Every record of several is put out as it would be by itself, with the names of another start. -/
theorem rowAll_of_learned {service : Service σ} {service' : Service τ}
    {asked : Reference → Answer (Option String)} {I : NameCache → World σ → Prop}
    {J : NameCache → World τ → Prop} (hI : Reference.Learned service asked I)
    (hJ : Reference.Learned service' asked J) (p : ColumnPlan) (records : List Record)
    (w : World σ) (w' : World τ) {names names' : NameCache} (h : I names w) (h' : J names' w') :
    (p.rowAll service records names w).1.1 =
        records.map (fun r => (Naming.runOn names' w' (p.row service' r)).1.1) ∧
      I (p.rowAll service records names w).1.2 (p.rowAll service records names w).2 := by
  induction records generalizing w names with
  | nil => exact ⟨rfl, h⟩
  | cons r records ih =>
    obtain ⟨answer, hrow, hrow'⟩ := agree_row hI hJ p r
    obtain ⟨hanswer, hkept⟩ := hrow names w h
    obtain ⟨hanswers, hend⟩ := ih _ hkept
    rw [rowAll_cons, List.map_cons, hanswers, hanswer, (hrow' names' w' h').1]
    exact ⟨rfl, hend⟩

end ColumnPlan

/-! ### Services that always answer the same -/

/-- A service whose answers stay the same: as long as something is true of its state, reading leaves
that true, and the service describes an entity and finds a record as before, whatever the case of
the letters in the name of the entity. -/
structure Service.Steady (service : Service σ) (holds : σ → Prop)
    (describe : String → Answer Entity)
    (find : String → Uuid → ColumnSet → Answer (Option Record)) : Prop where
  metadata : ∀ w name, holds w.state →
    ((service.metadata name).runOn w).1 = describe name ∧
      holds ((service.metadata name).runOn w).2.state
  retrieve : ∀ w name id columns, holds w.state →
    ((service.retrieve name id columns).runOn w).1 = find name id columns ∧
      holds ((service.retrieve name id columns).runOn w).2.state
  describe_congr : ∀ {m n e}, Text.lower m = Text.lower n → describe m = .ok e →
    describe n = .ok e
  find_congr : ∀ {m n id columns found}, Text.lower m = Text.lower n →
    find m id columns = .ok found → find n id columns = .ok found

namespace Reference

variable {describe : String → Answer Entity}
  {find : String → Uuid → ColumnSet → Answer (Option Record)}

/-- The name that a service has for a record, by its description of the entity and by what it
finds. -/
def asked (describe : String → Answer Entity)
    (find : String → Uuid → ColumnSet → Answer (Option Record)) (r : Reference) :
    Answer (Option String) := do
  match (← describe r.entity).primaryName with
  | none => return none
  | some primaryName =>
    return (← find r.entity r.id (.only [primaryName])).bind (textOf · primaryName)

/-- References to the same record have the same name. -/
theorem asked_congr {service : Service σ} {holds : σ → Prop}
    (h : service.Steady holds describe find) {r r' : Reference} (hkey : r.cacheKey = r'.cacheKey)
    {name : Option String} (hname : r.asked describe find = .ok name) :
    r'.asked describe find = .ok name := by
  obtain ⟨hentity, hid⟩ := Prod.mk.inj hkey
  unfold asked at hname ⊢
  cases hdescribe : describe r.entity with
  | error e =>
    rw [hdescribe] at hname
    exact nomatch hname
  | ok e =>
    rw [hdescribe] at hname
    rw [h.describe_congr hentity hdescribe]
    cases hprimary : e.primaryName with
    | none => simpa [hprimary, bind, Except.bind] using hname
    | some primaryName =>
      simp only [hprimary, bind, Except.bind] at hname ⊢
      cases hfind : find r.entity r.id (.only [primaryName]) with
      | error e =>
        rw [hfind] at hname
        exact nomatch hname
      | ok found =>
        rw [hfind] at hname
        rw [← hid, h.find_congr hentity hfind]
        exact hname

/-- Names that are those of the service. -/
def Sound (describe : String → Answer Entity)
    (find : String → Uuid → ColumnSet → Answer (Option Record)) (names : NameCache) : Prop :=
  ∀ (r : Reference) name, names.lookup r.cacheKey = some name → r.asked describe find = .ok name

/-- A name that the service has may be remembered. -/
theorem Sound.cons {service : Service σ} {holds : σ → Prop}
    (h : service.Steady holds describe find) {names : NameCache}
    (hnames : Sound describe find names) {r : Reference} {name : Option String}
    (hname : r.asked describe find = .ok name) :
    Sound describe find ((r.cacheKey, name) :: names) := by
  intro r' name' hlookup
  rw [List.lookup_cons] at hlookup
  by_cases hkey : r'.cacheKey = r.cacheKey
  · simp only [hkey, beq_self_eq_true, Option.some.injEq] at hlookup
    subst hlookup
    exact asked_congr h hkey.symm hname
  · have hne : (r'.cacheKey == r.cacheKey) = false := by simpa using hkey
    rw [hne] at hlookup
    exact hnames r' name' hlookup

/-- A steady service answers what it has, and its state keeps what is true of it. -/
theorem steady_askName {service : Service σ} {holds : σ → Prop}
    (h : service.Steady holds describe find) (r : Reference) {w : World σ} (hw : holds w.state) :
    ((r.askName service).runOn w).1 = r.asked describe find ∧
      holds ((r.askName service).runOn w).2.state := by
  obtain ⟨journal, hask⟩ := runOn_askName service r w
  obtain ⟨hdescribe, hw₁⟩ := h.metadata w r.entity hw
  rw [hask, asked]
  generalize (service.metadata r.entity).runOn w = described at hdescribe hw₁
  obtain ⟨answer, w₁⟩ := described
  rw [← hdescribe]
  cases answer with
  | error e => exact ⟨rfl, hw₁⟩
  | ok e =>
    dsimp only [bind, Except.bind]
    cases e.primaryName with
    | none => exact ⟨rfl, hw₁⟩
    | some primaryName =>
      obtain ⟨hfind, hw₂⟩ := h.retrieve w₁ r.entity r.id (.only [primaryName]) hw₁
      dsimp only
      generalize (service.retrieve r.entity r.id (.only [primaryName])).runOn w₁ = found
        at hfind hw₂
      obtain ⟨answer, w₂⟩ := found
      rw [← hfind]
      cases answer with
      | error e => exact ⟨rfl, hw₂⟩
      | ok found => exact ⟨rfl, hw₂⟩

/-- The names of a steady service stay its names. -/
theorem learned_of_steady {service : Service σ} {holds : σ → Prop}
    (h : service.Steady holds describe find) :
    Learned service (asked describe find)
      fun names w => holds w.state ∧ Sound describe find names where
  known := fun names w r name hI hlookup => hI.2 r name hlookup
  learn := by
    intro names w r hI _
    obtain ⟨hanswer, hholds⟩ := steady_askName h r hI.1
    generalize (r.askName service).runOn w = ran at hanswer hholds
    obtain ⟨answer, w'⟩ := ran
    cases answer with
    | error e => exact ⟨hanswer.symm, hholds, hI.2⟩
    | ok name => exact ⟨hanswer.symm, hholds, hI.2.cons h hanswer.symm⟩

end Reference

/-! ### Logs of what is retrieved -/

/-- A retrieval: of which record, and whether the service has answered. -/
structure Retrieval where
  key : String × Uuid
  answered : Bool

namespace Service

/-- A call that leaves the log alone. -/
def unlogged (c : Call σ α) : Call (σ × List Retrieval) α :=
  c.focus Prod.fst fun s logged => (s, logged.2)

/-- A service that keeps a log of its retrievals, latest first. -/
def logged (service : Service σ) : Service (σ × List Retrieval) where
  metadata name := unlogged (service.metadata name)
  query q := unlogged (service.query q)
  retrieve name id columns := do
    let answer ← (unlogged (service.retrieve name id columns)).attempt
    Call.change fun s => (s.1, ⟨(Text.lower name, id), answer.isOk⟩ :: s.2)
    Call.ofAnswer answer
  executeAll requests := unlogged (service.executeAll requests)
  execute request := unlogged (service.execute request)

/-- A retrieval is answered as without a log, and entered into it. -/
theorem runOn_retrieve_logged (service : Service σ) (name : String) (id : Uuid)
    (columns : ColumnSet) (w : World (σ × List Retrieval)) :
    (service.logged.retrieve name id columns).runOn w =
      (((service.retrieve name id columns).runOn ⟨w.state.1, w.journal⟩).1,
        ⟨(((service.retrieve name id columns).runOn ⟨w.state.1, w.journal⟩).2.state,
            ⟨(Text.lower name, id),
              ((service.retrieve name id columns).runOn ⟨w.state.1, w.journal⟩).1.isOk⟩ ::
                w.state.2),
          ((service.retrieve name id columns).runOn ⟨w.state.1, w.journal⟩).2.journal⟩) := rfl

/-- The log makes no difference to the answers. -/
theorem Steady.logged {service : Service σ} {holds : σ → Prop}
    {describe : String → Answer Entity}
    {find : String → Uuid → ColumnSet → Answer (Option Record)}
    (h : service.Steady holds describe find) :
    service.logged.Steady (fun s => holds s.1) describe find where
  metadata := fun w name hw => h.metadata ⟨w.state.1, w.journal⟩ name hw
  retrieve := by
    intro w name id columns hw
    rw [runOn_retrieve_logged]
    exact h.retrieve ⟨w.state.1, w.journal⟩ name id columns hw
  describe_congr := h.describe_congr
  find_congr := h.find_congr

end Service

namespace Reference

/-- To ask for a name enters one retrieval into the log, or none. -/
theorem log_askName (service : Service σ) (r : Reference) (w : World (σ × List Retrieval)) :
    ((r.askName service.logged).runOn w).2.state.2 = w.state.2 ∨
      ((r.askName service.logged).runOn w).2.state.2 =
        ⟨r.cacheKey, ((r.askName service.logged).runOn w).1.isOk⟩ :: w.state.2 := by
  obtain ⟨journal, hask⟩ := runOn_askName service.logged r w
  have hlog : ((service.logged.metadata r.entity).runOn w).2.state.2 = w.state.2 := rfl
  rw [hask]
  generalize (service.logged.metadata r.entity).runOn w = described at hlog
  obtain ⟨answer, w₁⟩ := described
  rw [← hlog]
  cases answer with
  | error e => exact .inl rfl
  | ok e =>
    dsimp only
    cases e.primaryName with
    | none => exact .inl rfl
    | some primaryName =>
      dsimp only
      rw [Service.runOn_retrieve_logged]
      generalize (service.retrieve r.entity r.id (.only [primaryName])).runOn
        ⟨w₁.state.1, w₁.journal⟩ = found
      obtain ⟨answer, w₂⟩ := found
      cases answer with
      | error e => exact .inr rfl
      | ok found => exact .inr rfl

/-- What is true of a log, next to the names that are known: a name is known of every record for
which a retrieval was answered, and for no record that is so twice. -/
structure Entered (names : NameCache) (log : List Retrieval) : Prop where
  known : ∀ x ∈ log, x.answered = true → x.key ∈ names.map Prod.fst
  once : ((log.filter (·.answered)).map (·.key)).Nodup

/-- Another name that is known. -/
theorem Entered.cons {names : NameCache} {log : List Retrieval} (h : Entered names log)
    (entry : (String × Uuid) × Option String) : Entered (entry :: names) log :=
  ⟨fun x hx hanswered => List.mem_cons_of_mem _ (h.known x hx hanswered), h.once⟩

/-- A retrieval without an answer. -/
theorem Entered.fail {names : NameCache} {log : List Retrieval} (h : Entered names log)
    (key : String × Uuid) : Entered names (⟨key, false⟩ :: log) := by
  refine ⟨?_, h.once⟩
  intro x hx hanswered
  rcases List.mem_cons.1 hx with rfl | hx
  · exact absurd hanswered Bool.false_ne_true
  · exact h.known x hx hanswered

/-- A retrieval that is answered, for a name that was not known. -/
theorem Entered.answer {names : NameCache} {log : List Retrieval} (h : Entered names log)
    {key : String × Uuid} (hnew : names.lookup key = none) (name : Option String) :
    Entered ((key, name) :: names) (⟨key, true⟩ :: log) := by
  constructor
  · intro x hx hanswered
    rcases List.mem_cons.1 hx with rfl | hx
    · exact List.mem_cons_self
    · exact List.mem_cons_of_mem _ (h.known x hx hanswered)
  · rw [List.filter_cons_of_pos rfl, List.map_cons, List.nodup_cons]
    refine ⟨?_, h.once⟩
    intro hmem
    obtain ⟨x, hx, rfl⟩ := List.mem_map.1 hmem
    obtain ⟨hx, hanswered⟩ := List.mem_filter.1 hx
    obtain ⟨entry, hentry, hkey⟩ := List.mem_map.1 (h.known x hx hanswered)
    have hne := List.lookup_eq_none_iff.1 hnew entry hentry
    rw [hkey] at hne
    exact absurd hne (by simp)

/-- The log of a steady service has no record twice. -/
theorem learned_of_steady_logged {service : Service σ} {holds : σ → Prop}
    (h : service.Steady holds describe find) :
    Learned service.logged (asked describe find)
      fun names w => (holds w.state.1 ∧ Sound describe find names) ∧ Entered names w.state.2 where
  known := fun names w r name hI hlookup => hI.1.2 r name hlookup
  learn := by
    intro names w r hI hnew
    have hlearn := (learned_of_steady h.logged).learn names w r hI.1 hnew
    have hlog := log_askName service r w
    generalize (r.askName service.logged).runOn w = ran at hlearn hlog
    obtain ⟨answer, w'⟩ := ran
    cases answer with
    | error e =>
      refine ⟨hlearn.1, hlearn.2, ?_⟩
      rcases hlog with hlog | hlog
      · rw [hlog]
        exact hI.2
      · rw [hlog]
        exact hI.2.fail r.cacheKey
    | ok name =>
      refine ⟨hlearn.1, hlearn.2, ?_⟩
      rcases hlog with hlog | hlog
      · rw [hlog]
        exact hI.2.cons _
      · rw [hlog]
        exact hI.2.answer hnew name

end Reference

/-! ### Several records -/

/-- **Remembered names.** A service that always answers the same is asked for the objects of some
records. Each record is put out as it would be by itself, whatever the service has been asked in
between, and that goes for the service with a log, too. In the log no record is retrieved again once
a retrieval of it was answered; so if no retrieval fails, no record is retrieved twice. -/
theorem ColumnPlan.rowAll_eq_map {service : Service σ} {holds : σ → Prop}
    {describe : String → Answer Entity}
    {find : String → Uuid → ColumnSet → Answer (Option Record)}
    (h : service.Steady holds describe find) (p : ColumnPlan) (records : List Record)
    (w w' : World σ) (hw : holds w.state) (hw' : holds w'.state) :
    let alone := records.map fun r => (Naming.runOn [] w' (p.row service r)).1.1
    let ran := p.rowAll service.logged records [] ⟨(w.state, []), w.journal⟩
    (p.rowAll service records [] w).1.1 = alone ∧ ran.1.1 = alone ∧
      ((ran.2.state.2.filter (·.answered)).map (·.key)).Nodup ∧
      ((∀ x ∈ ran.2.state.2, x.answered = true) → (ran.2.state.2.map (·.key)).Nodup) := by
  intro alone ran
  have hsound : Reference.Sound describe find [] := fun r name hlookup => nomatch hlookup
  have hplain := Reference.learned_of_steady h
  obtain ⟨houtputs, -⟩ := rowAll_of_learned hplain hplain p records w w' ⟨hw, hsound⟩
    ⟨hw', hsound⟩
  have hempty : Reference.Entered [] [] := ⟨(fun x hx => nomatch hx), List.nodup_nil⟩
  obtain ⟨hlogged, -, hentered⟩ := rowAll_of_learned (Reference.learned_of_steady_logged h) hplain
    p records ⟨(w.state, []), w.journal⟩ w' ⟨⟨hw, hsound⟩, hempty⟩ ⟨hw', hsound⟩
  refine ⟨houtputs, hlogged, hentered.once, fun hanswered => ?_⟩
  have honce := hentered.once
  rwa [List.filter_eq_self.2 hanswered] at honce

/-! ### Stores -/

namespace Store

/-- The description of an entity, by what is declared. -/
def describes (ts : Tables) (name : String) : Answer Entity :=
  match ts.catalog.entity? name with
  | some e => .ok e
  | none => .error (.of (.remoteFault (.unknownEntity name) false))

/-- Some attributes of a record in tables. -/
def finds (ts : Tables) (name : String) (id : Uuid) (columns : ColumnSet) :
    Answer (Option Record) :=
  (describes ts name).map fun e => (ts.find? e.name id).map (·.project (some e) columns)

/-- An entity is described the same by all spellings of its name. -/
theorem describes_congr {ts : Tables} {m n : String} {e : Entity}
    (h : Text.lower m = Text.lower n) (he : describes ts m = .ok e) : describes ts n = .ok e := by
  unfold describes at he ⊢
  rw [← Catalog.entity?_congr h]
  cases hentity : ts.catalog.entity? m with
  | none =>
    rw [hentity] at he
    exact nomatch he
  | some e' =>
    rw [hentity] at he
    exact he

/-- A store describes an entity by what is declared in its tables. -/
theorem mapError_entity (s : Store) (name : String) :
    ((s.entity name).mapError fun fault => .of (.remoteFault fault false)) =
      describes s.tables name := by
  unfold entity describes
  cases s.tables.catalog.entity? name <;> rfl

/-- **Stores are steady.** To read a store changes no table, and as long as the tables stay the same
a store describes its entities and finds its records as before. -/
theorem steady_service (ts : Tables) :
    service.Steady (fun s => s.tables = ts) (describes ts) (finds ts) where
  metadata := by
    intro w name hw
    show ((metadata name).runOn w).1 = _ ∧ ((metadata name).runOn w).2.state.tables = ts
    rw [runOn_metadata, mapError_entity, hw]
    exact ⟨rfl, rfl⟩
  retrieve := by
    intro w name id columns hw
    show ((retrieve name id columns).runOn w).1 = _ ∧
      ((retrieve name id columns).runOn w).2.state.tables = ts
    rw [runOn_retrieve]
    refine ⟨?_, hw⟩
    rw [finds, ← hw, ← mapError_entity]
    cases w.state.entity name <;> rfl
  describe_congr := describes_congr
  find_congr := by
    intro m n id columns found hname hfound
    unfold finds at hfound ⊢
    cases hdescribes : describes ts m with
    | error e =>
      rw [hdescribes] at hfound
      exact nomatch hfound
    | ok e =>
      rw [hdescribes] at hfound
      rw [describes_congr hname hdescribes]
      exact hfound

/-! ### Contacts of accounts -/

/-- Accounts are told by their names. -/
def accounts : Entity :=
  { (Entity.ofName "account").declare (.ofType "name" .string) with primaryName := some "name" }

/-- Contacts belong to accounts. -/
def contacts : Entity :=
  (Entity.ofName "contact").declare (.ofType "parent" .lookup)

/-- A store with the account of Contoso. -/
def contoso : Store :=
  ((ofEntities [accounts, contacts]).insert
    ⟨"account", some (.numbered 1), .ofList [("name", .text (some "Contoso"))]⟩).2

/-- A contact of an account. -/
def contactOf (entity : String) (id : Nat) : Record :=
  ⟨"contact", none, .ofList [("parent", .reference (some ⟨entity, .numbered id, none⟩))]⟩

/-- Contacts with the name of their account. -/
def withParent : ColumnPlan :=
  ⟨contacts, [⟨"parent", .default⟩], true⟩

/-- Two contacts of the account, and two of one that there is not. -/
def fourContacts : List Record :=
  [contactOf "account" 1, contactOf "account" 2, contactOf "ACCOUNT" 1, contactOf "Account" 2]

end Store

/-- The contacts are put out with the names of their accounts. Each account is retrieved once, also
the one that there is not. -/
theorem ColumnPlan.rowAll_eq_map_contoso :
    ∃ describe find,
      Store.service.Steady (fun s => s.tables = Store.contoso.tables) describe find ∧
        let w : World Store := ⟨Store.contoso, []⟩
        let alone := Store.fourContacts.map fun r =>
          (Naming.runOn [] w (Store.withParent.row Store.service r)).1.1
        let ran := Store.withParent.rowAll Store.service.logged Store.fourContacts []
          ⟨(Store.contoso, []), []⟩
        (Store.withParent.rowAll Store.service Store.fourContacts [] w).1.1 = alone ∧
          alone.map (fun row => row.toOption.bind (·.get? "parent")) =
            [some (.string "Contoso"), some .null, some (.string "Contoso"), some .null] ∧
          (∀ x ∈ ran.2.state.2, x.answered = true) ∧ (ran.2.state.2.map (·.key)).Nodup ∧
          ran.2.state.2.map (·.key) = [("account", .numbered 2), ("account", .numbered 1)] := by
  have hsteady := Store.steady_service Store.contoso.tables
  obtain ⟨houtputs, -, -, honce⟩ := Store.withParent.rowAll_eq_map hsteady Store.fourContacts
    ⟨Store.contoso, []⟩ ⟨Store.contoso, []⟩ rfl rfl
  refine ⟨_, _, hsteady, houtputs, rfl, by decide +kernel, honce ?_, by decide +kernel⟩
  decide +kernel

end RecordService
