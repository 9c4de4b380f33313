import RecordService.Service

namespace RecordService.Call

/-!
# Running calls

What a call that is put together from others answers, in terms of what these answer. Later proofs
take calls apart by these lemmas and do not look into the monad.

* `runOn_bind`: a call that goes on with the answer of another one.
* `runOn_attempt`, `runOn_ofAnswer`: calls that keep a failure as an answer, or come from one.
* `bind_eq_ok`: what has to succeed for the whole to succeed.
* `Keeps`: what a call leaves true.
-/

variable {σ α β : Type}

/-- A call that goes on with an answer, and fails with the call that did not give one. -/
theorem runOn_bind (w : World σ) (c : Call σ α) (f : α → Call σ β) :
    runOn w (c >>= f) =
      match runOn w c with
      | (.ok a, w') => runOn w' (f a)
      | (.error e, w') => (.error e, w') := by
  simp only [runOn, ExceptT.run, bind, ExceptT.bind, ExceptT.mk, StateT.bind, ExceptT.bindCont]
  cases h : c w with
  | mk r w' => cases r <;> rfl

/-- A change of the state always succeeds, and touches neither the clock nor the log. -/
theorem runOn_change (w : World σ) (f : σ → σ) :
    runOn w (change f) = (.ok (), { w with state := f w.state }) := rfl

/-- A call that keeps its failure as an answer always succeeds, in the world the call itself left
behind. -/
@[simp] theorem runOn_attempt (w : World σ) (c : Call σ α) :
    runOn w c.attempt = (.ok (runOn w c).1, (runOn w c).2) := rfl

/-- Handing on an answer that is there already leaves the world alone. -/
@[simp] theorem runOn_ofAnswer (w : World σ) (r : Answer α) : runOn w (ofAnswer r) = (r, w) := rfl

/-- A call that goes on with an answer succeeds if there is one and the rest succeeds. -/
theorem bind_eq_ok {w w' : World σ} {c : Call σ α} {f : α → Call σ β} {b : β}
    (h : runOn w (c >>= f) = (.ok b, w')) :
    ∃ a w₁, runOn w c = (.ok a, w₁) ∧ runOn w₁ (f a) = (.ok b, w') := by
  rw [runOn_bind] at h
  cases hc : runOn w c with
  | mk r w₁ =>
    rw [hc] at h
    cases r with
    | error e => exact nomatch h
    | ok a => exact ⟨a, w₁, rfl, h⟩

/-! ### What calls keep -/

/-- Whether a call leaves true what was true of the world, also when it fails. -/
def Keeps (P : World σ → Prop) (c : Call σ α) : Prop :=
  ∀ w, P w → P (runOn w c).2

variable {P : World σ → Prop}

/-- A call that only returns a value keeps every property of the world. -/
theorem keeps_pure (a : α) : Keeps P (pure a) :=
  fun _ h => h

/-- A call that only fails keeps every property of the world. -/
theorem keeps_throw (e : Failure) : Keeps P (throw e : Call σ α) :=
  fun _ h => h

/-- Handing on an answer keeps every property of the world, be the answer a failure or not. -/
theorem keeps_ofAnswer (r : Answer α) : Keeps P (ofAnswer r) :=
  fun _ h => h

/-- Keeping a failure as an answer does not change what the call keeps. -/
theorem Keeps.attempt {c : Call σ α} (h : c.Keeps P) : Keeps P c.attempt :=
  h

/-- If a call keeps a property and so does whatever follows it, both in a row do, also where the
first one fails. -/
theorem Keeps.bind {c : Call σ α} {f : α → Call σ β} (hc : c.Keeps P) (hf : ∀ a, (f a).Keeps P) :
    Keeps P (c >>= f) := by
  intro w hw
  have hw₁ := hc w hw
  rw [runOn_bind]
  cases h : runOn w c with
  | mk r w₁ =>
    rw [h] at hw₁
    cases r with
    | error e => exact hw₁
    | ok a => exact hf a w₁ hw₁

end RecordService.Call
