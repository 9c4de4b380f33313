import RecordService.Proofs.Call
import RecordService.Write.Classification

namespace RecordService.Classifier

/-!
# The items of an input

An input that can be classified leads to at least one item, and its items count on from the last
token that was given.

* `itemsOf_eq_ok`: the items of some decisions, their tokens and what they come from.
* `classify_ne_nil`: a classified input leads to something.
* `items_eq_ok`: both for the items of an input.
-/

variable {σ : Type}

/-- The item of a decision carries the token, the place and the input that it is made with. -/
theorem item_eq_ok {c : Classifier} {token index : Nat} {i : Input} {decision : Decision}
    {item : WriteItem} (h : c.item token index i decision = .ok item) :
    item.token = token ∧ item.index = index ∧ item.input = i ∧ item.attempts = 0 := by
  unfold Classifier.item at h
  cases hr : c.record i decision with
  | error e => rw [hr] at h; exact nomatch h
  | ok r =>
    rw [hr] at h
    cases h
    exact ⟨rfl, rfl, rfl, rfl⟩

/-- Tokens are never taken back. -/
theorem last_le_itemsOf (c : Classifier) (index : Nat) (i : Input) (decisions : List Decision)
    (last : Nat) : last ≤ (c.itemsOf index i decisions last).2 := by
  induction decisions generalizing last with
  | nil => exact Nat.le_refl _
  | cons decision decisions ih =>
    unfold itemsOf
    split
    · exact Nat.le_refl _
    · exact Nat.le_of_succ_le (ih (last + 1))

/-- **Tokens.** The items of some decisions, one for each, have the next tokens in order. -/
theorem itemsOf_eq_ok {c : Classifier} {index : Nat} {i : Input} {decisions : List Decision}
    {last : Nat} {items : List WriteItem}
    (h : (c.itemsOf index i decisions last).1 = .ok items) :
    items.map (·.token) = List.range' (last + 1) decisions.length ∧
      (c.itemsOf index i decisions last).2 = last + decisions.length ∧
      ∀ item ∈ items, item.index = index ∧ item.input = i ∧ item.attempts = 0 := by
  induction decisions generalizing last items with
  | nil =>
    cases h
    exact ⟨rfl, rfl, fun _ hmem => nomatch hmem⟩
  | cons decision decisions ih =>
    unfold itemsOf at h ⊢
    cases hitem : c.item (last + 1) index i decision with
    | error e => rw [hitem] at h; exact nomatch h
    | ok item =>
      rw [hitem] at h
      dsimp only at h ⊢
      cases hrest : (c.itemsOf index i decisions (last + 1)).1 with
      | error e => rw [hrest] at h; exact nomatch h
      | ok rest =>
        rw [hrest] at h
        cases h
        -- the later items have the tokens after that of the first
        obtain ⟨htokens, hlast, hown⟩ := ih hrest
        obtain ⟨htoken, hindex, hinput, hattempts⟩ := item_eq_ok hitem
        refine ⟨?_, ?_, ?_⟩
        · rw [List.map_cons, htokens, htoken, List.length_cons, List.range'_succ]
        · rw [hlast, List.length_cons]
          omega
        · intro other hother
          rcases List.mem_cons.1 hother with rfl | hother
          · exact ⟨hindex, hinput, hattempts⟩
          · exact hown other hother

/-- What is decided about some records is never nothing. -/
theorem decide_ne_nil {c : Classifier} {targets : List Uuid} {decisions : List Decision}
    (h : c.decide targets = .ok decisions) : decisions ≠ [] := by
  unfold Classifier.decide at h
  by_cases htargets : targets.isEmpty = true
  · rw [if_pos htargets] at h
    split at h
    · exact nomatch h
    · cases h
      exact List.cons_ne_nil _ _
  · rw [if_neg htargets] at h
    split at h
    · exact nomatch h
    · cases h
      -- as many decisions as targets, of which there is one at least
      intro hnil
      exact htargets (List.isEmpty_iff.2 (List.map_eq_nil_iff.1 hnil))

/-- An input that is classified leads to something. -/
theorem classify_ne_nil {c : Classifier} {service : Service σ} {i : Input} {w w' : World σ}
    {decisions : List Decision} (h : (c.classify service i).runOn w = (.ok decisions, w')) :
    decisions ≠ [] := by
  unfold classify at h
  obtain ⟨id, w₁, _, h⟩ := Call.bind_eq_ok h
  split at h
  · cases h
    exact List.cons_ne_nil _ _
  · split at h
    · cases h
      exact List.cons_ne_nil _ _
    · obtain ⟨targets, w₂, _, h⟩ := Call.bind_eq_ok h
      rw [Call.runOn_ofAnswer] at h
      exact decide_ne_nil (Prod.mk.inj h).1

/-- What the classification of an input comes to. -/
theorem items_eq_ok {c : Classifier} {service : Service σ} {index : Nat} {i : Input} {last : Nat}
    {w w' : World σ} {result : Answer (List WriteItem)} {last' : Nat}
    (h : (c.items service index i last).runOn w = (.ok (result, last'), w')) :
    last ≤ last' ∧ ∀ items, result = .ok items →
      items ≠ [] ∧ (∃ n, items.map (·.token) = List.range' (last + 1) n ∧ last' = last + n) ∧
        ∀ item ∈ items, item.index = index ∧ item.input = i ∧ item.attempts = 0 := by
  unfold Classifier.items at h
  obtain ⟨r, w₁, hr, h⟩ := Call.bind_eq_ok h
  rw [Call.runOn_attempt] at hr
  cases r with
  | error e =>
    cases h
    exact ⟨Nat.le_refl _, fun _ hok => nomatch hok⟩
  | ok decisions =>
    have hne : decisions ≠ [] :=
      classify_ne_nil (Prod.ext (Except.ok.inj (Prod.mk.inj hr).1) rfl)
    have hitems : c.itemsOf index i decisions last = (result, last') :=
      Except.ok.inj (Prod.mk.inj h).1
    refine ⟨?_, ?_⟩
    · have hle := last_le_itemsOf c index i decisions last
      rwa [hitems] at hle
    · rintro items rfl
      have hok : (c.itemsOf index i decisions last).1 = .ok items := by rw [hitems]
      obtain ⟨htokens, hlast, hown⟩ := itemsOf_eq_ok hok
      rw [hitems] at hlast
      refine ⟨?_, ⟨decisions.length, htokens, hlast⟩, hown⟩
      -- no items would have no tokens, but there is one for each decision
      rintro rfl
      have hlength := congrArg List.length htokens
      rw [List.map_nil, List.length_nil, List.length_range'] at hlength
      exact hne (List.length_eq_zero_iff.1 hlength.symm)

end RecordService.Classifier
