import RecordService.Proofs.Pipeline.Interleaving

namespace RecordService.Pipeline

/-!
# Runs come to their end

The scheduled run ends because every actor that acts leaves less to do. That does not hang on the
schedule: only the clock and the signal to cancel can go on for ever. As long as not all is done,
somebody can act, so a run in which somebody does so now and then comes to its end.

* `Acts`: the steps of the producer and the workers.
* `less_of_acts`, `remaining_of_step`: what a step leaves to do.
* `exists_acts`: as long as not all is done, somebody can act.
* `Fair`, `Fair.isOver`: runs in which somebody acts now and then end.
-/

variable {σ : Type} {p : Pipeline σ} {s t : Run σ}

/-! ### What a step leaves to do -/

/-- A step of the producer or of a worker. -/
inductive Acts (p : Pipeline σ) (s : Run σ) : Run σ → Prop where
  /-- The producer reads an input. -/
  | read {t : Run σ} {r : Reading} (hstep : p.Step s (some r) t) : Acts p s t
  /-- The producer does something else. -/
  | produce (hdue : (p.producerDue? s).isSome) (hnone : p.upcoming? s = none) :
      Acts p s (p.produce s)
  /-- A worker takes a step. -/
  | work {t : Run σ} {id : Nat} (hown : p.Working s id t) : Acts p s t

/-- Whoever does not act lets time pass or cancels the run. -/
theorem acts_or_waits {r : Option Reading} (hstep : p.Step s r t) :
    p.Acts s t ∨ (∃ time, t = s.at time) ∨ t = s.cancel := by
  cases hstep with
  | pass => exact .inr (.inl ⟨_, rfl⟩)
  | cancel => exact .inr (.inr rfl)
  | read hread hinputs hcall hresult => exact .inl (.read (.read hread hinputs hcall hresult))
  | produce hdue hnone => exact .inl (.produce hdue hnone)
  | receive hw hdue => exact .inl (.work (.receive hw hdue))
  | answer hw hcall => exact .inl (.work (.answer hw hcall))
  | wake hw => exact .inl (.work (.wake hw))

/-- Reading an input brings the end closer. -/
theorem less_of_read {r : Reading} (hstep : p.Step s (some r) t) :
    Remaining.Less (p.remaining t) (p.remaining s) := by
  cases hstep with
  | @read u i rest result last hread hinputs hcall hresult =>
    obtain ⟨world, cancelled, rfl⟩ := eq_of_classification hcall
    obtain ⟨hcancelAt, hrest⟩ :=
      classified_same p { s with inputs := rest, world, cancelled } i (.ok (result, last))
    refine less_of_inputs hcancelAt ?_
    rw [hrest, hinputs]
    exact Nat.lt_succ_self _

/-- Whatever a worker does by itself brings the end closer. -/
theorem less_of_working {id : Nat} (hown : p.Working s id t) :
    Remaining.Less (p.remaining t) (p.remaining s) := by
  cases hown with
  | receive hw => exact less_of_receive hw
  | @answer u items results hw hcall =>
    have hanswer : p.answer s id items = p.submitted u id items (.ok results) := by
      show p.submitted (p.submission s items).2 id items (p.submission s items).1 = _
      rw [hcall]
    rw [← hanswer]
    exact less_of_answer hw
  | wake hw =>
    split
    · exact less_of_abandon hw
    · exact less_of_send hw

/-- Whoever acts leaves less to do. -/
theorem less_of_acts (h : p.Acts s t) : Remaining.Less (p.remaining t) (p.remaining s) := by
  cases h with
  | read hstep => exact less_of_read hstep
  | produce hdue =>
    refine less_of_produce fun hfinished => ?_
    rw [producerDue?, hfinished] at hdue
    exact Bool.false_ne_true hdue
  | work hown => exact less_of_working hown

/-- No step leaves more to do. -/
theorem remaining_of_step {r : Option Reading} (hstep : p.Step s r t) :
    Remaining.Less (p.remaining t) (p.remaining s) ∨ p.remaining t = p.remaining s := by
  rcases acts_or_waits hstep with hacts | ⟨time, rfl⟩ | rfl
  · exact .inl (less_of_acts hacts)
  · exact .inr rfl
  · cases hcancelAt : s.cancelAt with
    | none =>
      right
      simp [remaining, Run.cancel, Run.note, hcancelAt, sendWork]
    | some time =>
      left
      simp only [remaining, Run.cancel, Run.note, hcancelAt]
      exact .left _ _ Nat.zero_lt_one

/-! ### Somebody can act -/

/-- As long as not all is done, somebody can act, if no task breaks off. -/
theorem exists_acts (hp : 0 < p.options.parallelism) (hnot : s.isOver = false)
    (hb : ∀ a, ¬p.Breaks s a) : ∃ t, p.Acts s t := by
  cases hproducer : p.producerDue? s with
  | some time =>
    cases hup : p.upcoming? s with
    | none => exact ⟨_, .produce (hproducer ▸ rfl) hup⟩
    | some next =>
      obtain ⟨r, hstep⟩ := read_of_upcoming hup (hb .producer)
      exact ⟨_, .read hstep⟩
  | none =>
    refine Classical.byContradiction fun hnobody => ?_
    have hworker : ∀ w ∈ s.workers, workerDue? s w = none := by
      intro w hw
      obtain ⟨id, hid, rfl⟩ := List.mem_iff_getElem.1 hw
      rw [← Option.not_isSome_iff_eq_none]
      intro hdue
      have hown := working_of_due (List.getElem?_eq_getElem hid) hdue (hb (.worker id))
      exact hnobody ⟨_, .work hown⟩
    exact Bool.false_ne_true (hnot.symm.trans (isOver_of_due hp hproducer hworker))

/-! ### Fair runs -/

/-- A run that goes on for ever, in which somebody acts now and then as long as not all is done. -/
structure Fair (p : Pipeline σ) (run : Nat → Run σ) : Prop where
  step : ∀ n, ∃ r, p.Step (run n) r (run (n + 1))
  acts : ∀ n, (run n).isOver = false → ∃ k, p.Acts (run (n + k)) (run (n + k + 1))

/-- Once somebody acts, less is left to do. -/
theorem Fair.exists_less {run : Nat → Run σ} (h : p.Fair run) {n k : Nat}
    (hacts : p.Acts (run (n + k)) (run (n + k + 1))) :
    ∃ m, Remaining.Less (p.remaining (run m)) (p.remaining (run n)) := by
  induction k generalizing n with
  | zero => exact ⟨n + 1, less_of_acts hacts⟩
  | succ k ih =>
    obtain ⟨r, hstep⟩ := h.step n
    rcases remaining_of_step hstep with hless | hsame
    · exact ⟨n + 1, hless⟩
    · rw [← hsame]
      refine ih ?_
      rwa [Nat.add_right_comm n 1 k, Nat.add_assoc n k 1]

/-- **Fair runs come to their end.** -/
theorem Fair.isOver {run : Nat → Run σ} (h : p.Fair run) : ∃ n, (run n).isOver = true := by
  refine Classical.byContradiction fun hnever => ?_
  have hnot : ∀ n, (run n).isOver = false := fun n =>
    Bool.eq_false_iff.2 fun hover => hnever ⟨n, hover⟩
  -- otherwise what is left to do would become less for ever
  have hdescent : ∀ x n, p.remaining (run n) ≠ x := by
    intro x
    induction x using Remaining.less_wf.induction with
    | _ x ih =>
      rintro n rfl
      obtain ⟨k, hacts⟩ := h.acts n (hnot n)
      obtain ⟨m, hless⟩ := h.exists_less hacts
      exact ih _ hless m rfl
  exact hdescent _ 0 rfl

end RecordService.Pipeline
