import RecordService.Failure

namespace RecordService.Answer

/-!
# Answers one after the other

A computation goes on with the answer of another one, and fails with it.
-/

variable {α β γ : Type}

@[simp] theorem ok_bind (a : α) (f : α → Answer β) : (Except.ok a >>= f : Answer β) = f a := rfl

/-- A computation that goes on with an answer succeeds if there is one and the rest succeeds. -/
theorem bind_eq_ok {r : Answer α} {f : α → Answer β} {b : β} :
    r >>= f = .ok b ↔ ∃ a, r = .ok a ∧ f a = .ok b := by
  cases r with
  | error e => exact ⟨nofun, nofun⟩
  | ok a =>
    rw [ok_bind]
    refine ⟨fun h => ⟨a, rfl, h⟩, fun ⟨a', ha, h⟩ => ?_⟩
    cases ha
    exact h

/-- Whether there is an answer can be decided. -/
theorem exists_of_toBool {r : Answer α} (h : r.toBool = true) : ∃ a, r = .ok a := by
  cases r with
  | error e => exact nomatch h
  | ok a => exact ⟨a, rfl⟩

/-- An answer that is changed is one. -/
theorem map_eq_ok {r : Answer α} {f : α → β} {b : β} :
    r.map f = .ok b ↔ ∃ a, r = .ok a ∧ f a = b := by
  cases r with
  | error e => exact ⟨nofun, nofun⟩
  | ok a =>
    refine ⟨fun h => ⟨a, rfl, Except.ok.inj h⟩, fun ⟨a', ha, h⟩ => ?_⟩
    cases ha
    exact congrArg Except.ok h

/-- What is done with an answer leaves a failure as it is. -/
theorem map_eq_error {r : Answer α} {f : α → β} {e : Failure} :
    r.map f = .error e ↔ r = .error e := by
  cases r with
  | ok a => exact ⟨nofun, nofun⟩
  | error e' =>
    show Except.error e' = Except.error e ↔ _
    rw [Except.error.injEq, Except.error.injEq]

/-- A failure that is told differently is none less. -/
theorem mapError_eq_ok {r : Answer α} {f : Failure → Failure} {a : α} :
    r.mapError f = .ok a ↔ r = .ok a := by
  cases r with
  | error e => exact ⟨nofun, nofun⟩
  | ok a' => exact Iff.rfl

/-- A computation goes on with an answer that was changed. -/
theorem map_bind (r : Answer α) (f : α → β) (g : β → Answer γ) :
    r.map f >>= g = r >>= fun a => g (f a) := by
  cases r <;> rfl

/-- The last answer of a computation may be changed. -/
theorem bind_map (r : Answer α) (f : α → Answer β) (g : β → γ) :
    (r >>= f).map g = r >>= fun a => (f a).map g := by
  cases r <;> rfl

/-! ### Lists of answers -/

/-- What is true of every answer is true of all in a list of them. -/
theorem forall_of_mapM {f : α → Answer β} {P : β → Prop} {as : List α} {bs : List β}
    (h : as.mapM f = .ok bs) (hP : ∀ a ∈ as, ∀ b, f a = .ok b → P b) : ∀ b ∈ bs, P b := by
  induction as generalizing bs with
  | nil =>
    cases h
    exact List.forall_mem_nil _
  | cons a as ih =>
    rw [List.forall_mem_cons] at hP
    rw [List.mapM_cons] at h
    obtain ⟨b, hb, h⟩ := bind_eq_ok.1 h
    obtain ⟨bs, hbs, h⟩ := bind_eq_ok.1 h
    cases h
    exact List.forall_mem_cons.2 ⟨hP.1 b hb, ih hbs hP.2⟩

/-- If every answer has a property exactly where what it was made of has another one, then so do all
answers in a list. -/
theorem forall_iff_of_mapM {f : α → Answer β} {P : α → Prop} {Q : β → Prop} {as : List α}
    {bs : List β} (h : as.mapM f = .ok bs) (hPQ : ∀ a ∈ as, ∀ b, f a = .ok b → (Q b ↔ P a)) :
    (∀ b ∈ bs, Q b) ↔ ∀ a ∈ as, P a := by
  induction as generalizing bs with
  | nil =>
    cases h
    exact ⟨fun _ => List.forall_mem_nil _, fun _ => List.forall_mem_nil _⟩
  | cons a as ih =>
    rw [List.forall_mem_cons] at hPQ
    rw [List.mapM_cons] at h
    obtain ⟨b, hb, h⟩ := bind_eq_ok.1 h
    obtain ⟨bs, hbs, h⟩ := bind_eq_ok.1 h
    cases h
    rw [List.forall_mem_cons, List.forall_mem_cons, hPQ.1 b hb, ih hbs hPQ.2]

/-- A list of answers has one for each thing that it was made of. -/
theorem exists_of_mapM {f : α → Answer β} {as : List α} {bs : List β} (h : as.mapM f = .ok bs)
    {a : α} (ha : a ∈ as) : ∃ b, f a = .ok b := by
  have hall : (∀ b ∈ bs, True) ↔ ∀ a ∈ as, ∃ b, f a = .ok b :=
    forall_iff_of_mapM h fun a _ b hb => ⟨fun _ => ⟨b, hb⟩, fun _ => trivial⟩
  exact hall.1 (fun _ _ => trivial) a ha

/-- Answers that are changed one by one make a list that is changed. -/
theorem mapM_eq_map {f : α → Answer β} {f' : α → Answer γ} {g : β → γ} {as : List α}
    (h : ∀ a ∈ as, f' a = (f a).map g) : as.mapM f' = (as.mapM f).map (List.map g) := by
  induction as with
  | nil => rfl
  | cons a as ih =>
    rw [List.forall_mem_cons] at h
    rw [List.mapM_cons, List.mapM_cons, h.1, ih h.2, map_bind, bind_map]
    refine congrArg (f a >>= ·) (funext fun b => ?_)
    rw [map_bind, bind_map]
    rfl

end RecordService.Answer
