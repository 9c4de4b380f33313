import RecordService.Proofs.Call
import RecordService.Proofs.Coercion.Sound
import RecordService.Write.Classification

namespace RecordService

/-!
# What classification does to the service

The classification of an input asks the service for records and writes nothing. Without matching
it does not even ask, so that it can be foreseen.

* `Classifier.keeps_items`: what queries keep, the classification of an input keeps.
* `Classifier.planned`, `Classifier.items_of_matchOn_nil`: the classification without matching.
* `Classifier.sound_planned`: then it never breaches.
* `Classifier.planned_batched`: how many requests are sent together makes no difference.
-/

variable {σ : Type} {service : Service σ} {P : World σ → Prop}

/-- What queries keep is kept by all pages of a query. -/
theorem Query.keeps_laterPages (hquery : ∀ q, (service.query q).Keeps P) (q : Query) (n : Nat)
    (page : Page) (result : QueryResult) : (q.laterPages service n page result).Keeps P := by
  induction n generalizing page result with
  | zero => exact Call.keeps_throw _
  | succ n ih =>
    unfold laterPages
    split
    · exact (hquery _).bind fun _ => (ih _ _).bind fun _ => Call.keeps_pure _
    · exact Call.keeps_pure _

/-- What queries and notes keep is kept by matching. -/
theorem Input.keeps_matchesOn (hquery : ∀ q, (service.query q).Keeps P)
    (hnote : ∀ line, (Call.note (σ := σ) line).Keeps P) (e : Entity) (i : Input)
    (names : List String) (allowMultiple : Bool) :
    (i.matchesOn service e names allowMultiple).Keeps P := by
  unfold matchesOn
  refine (Call.keeps_ofAnswer _).bind fun conditions => ?_
  split
  · exact Call.keeps_pure _
  · refine (hnote _).bind fun _ => Call.Keeps.bind ?_ fun found => ?_
    · exact (hquery _).bind fun result =>
        (Query.keeps_laterPages hquery _ _ _ _).bind fun _ => Call.keeps_pure _
    · split
      · exact (Call.keeps_throw _).bind fun _ => Call.keeps_pure _
      · exact Call.keeps_pure _

namespace Classifier

/-- Looking up the identities that match keeps what queries and lines of the log keep: it makes no
other calls. -/
theorem keeps_matchIds (hquery : ∀ q, (service.query q).Keeps P)
    (hnote : ∀ line, (Call.note (σ := σ) line).Keeps P) (c : Classifier) (i : Input)
    (sets : List (List String)) : (c.matchIds service i sets).Keeps P := by
  induction sets with
  | nil => exact Call.keeps_pure _
  | cons names sets ih =>
    unfold matchIds
    refine (i.keeps_matchesOn hquery hnote _ _ _).bind fun found => ?_
    dsimp only
    split
    · exact ih
    · exact (hnote _).bind fun _ => Call.keeps_pure _

/-- **Classification only asks.** What queries and notes keep is kept when an input is
classified. -/
theorem keeps_items (hquery : ∀ q, (service.query q).Keeps P)
    (hnote : ∀ line, (Call.note (σ := σ) line).Keeps P) (c : Classifier) (index : Nat) (i : Input)
    (last : Nat) : (c.items service index i last).Keeps P := by
  have htargets : ∀ id, (c.targets service i id).Keeps P := by
    intro id
    unfold targets
    split
    · exact Call.keeps_pure _
    · exact keeps_matchIds hquery hnote c i _
  have hclassify : (c.classify service i).Keeps P := by
    unfold classify
    refine (Call.keeps_ofAnswer _).bind fun id => ?_
    split
    · exact Call.keeps_pure _
    · split
      · exact Call.keeps_pure _
      · exact (htargets id).bind fun _ => Call.keeps_ofAnswer _
  unfold items
  refine hclassify.attempt.bind fun r => ?_
  split
  · exact Call.keeps_pure _
  · exact Call.keeps_pure _

/-! ### Without matching -/

/-- The operations that an input leads to if nothing is matched. -/
def plan (c : Classifier) (i : Input) : Answer (List Decision) := do
  let id ← c.identity i
  if c.options.upsert then return [(.upsert, id)]
  if c.options.createOnly then return [(.create, id)]
  c.decide id.toList

/-- The items of an input if nothing is matched, and the last token that was given. -/
def planned (c : Classifier) (index : Nat) (i : Input) (last : Nat) :
    Answer (List WriteItem) × Nat :=
  match c.plan i with
  | .error e => (.error e, last)
  | .ok decisions => c.itemsOf index i decisions last

/-- Without attributes to match on, the targets are the identity that the input itself has, and
nothing is called. -/
theorem runOn_targets_of_matchOn_nil {c : Classifier} (h : c.options.matchOn = []) (i : Input)
    (id : Option Uuid) (w : World σ) :
    (c.targets service i id).runOn w = (.ok id.toList, w) := by
  unfold targets
  rw [h]
  cases id <;> rfl

/-- Without attributes to match on, an input is planned from what is in it alone. -/
theorem runOn_classify_of_matchOn_nil {c : Classifier} (h : c.options.matchOn = []) (i : Input)
    (w : World σ) : (c.classify service i).runOn w = (c.plan i, w) := by
  unfold classify plan
  rw [Call.runOn_bind, Call.runOn_ofAnswer]
  cases c.identity i with
  | error e => rfl
  | ok id =>
    dsimp only [bind, Except.bind]
    split
    · rfl
    · split
      · rfl
      · show Call.runOn w (c.targets service i id >>= _) = _
        rw [Call.runOn_bind, runOn_targets_of_matchOn_nil h]
        rfl

/-- **Foresight.** Without matching an input is classified as planned, and the service is left
alone. -/
theorem items_of_matchOn_nil {c : Classifier} (h : c.options.matchOn = []) (index : Nat)
    (i : Input) (last : Nat) (w : World σ) :
    (c.items service index i last).runOn w = (.ok (c.planned index i last), w) := by
  unfold items planned
  rw [Call.runOn_bind, Call.runOn_attempt, runOn_classify_of_matchOn_nil h]
  cases c.plan i <;> rfl

/-! ### No breach -/

/-- An identity that cannot be read is reported, never a breach. -/
theorem sound_identity (c : Classifier) (i : Input) : Answer.Sound (c.identity i) := by
  unfold identity
  split
  · exact Answer.sound_ok _
  · split
    · exact Answer.sound_error _ _
    · refine (Attribute.sound_coerce _ _).bind fun v => ?_
      split
      · exact Answer.sound_ok _
      · exact Answer.sound_ok _
      · exact Answer.sound_fail _

/-- Deciding about the targets refuses to create or to update by an error, never by a breach. -/
theorem sound_decide (c : Classifier) (targets : List Uuid) :
    Answer.Sound (c.decide targets) := by
  unfold Classifier.decide
  split
  · split
    · exact Answer.sound_error _ _
    · exact Answer.sound_ok _
  · split
    · exact Answer.sound_error _ _
    · exact Answer.sound_ok _

/-- Setting the values of a record fails by coercion only, so it never breaches. -/
theorem sound_setValues (c : Classifier) (operation : Operation)
    (entries : List (String × InputValue)) (r : Record) :
    Answer.Sound (c.setValues operation entries r) := by
  induction entries generalizing r with
  | nil => exact Answer.sound_ok r
  | cons entry entries ih =>
    unfold setValues
    split
    · exact ih r
    · split
      · exact Answer.sound_fail _
      · exact (Attribute.sound_coerce _ _).bind fun v => ih _

/-- Making an item for a decision never breaches. -/
theorem sound_item (c : Classifier) (token index : Nat) (i : Input) (decision : Decision) :
    Answer.Sound (c.item token index i decision) := by
  have hrecord : Answer.Sound (c.record i decision) :=
    (c.sound_setValues _ _ _).bind fun _ => Answer.sound_ok _
  exact (hrecord.within _).bind fun _ => Answer.sound_ok _

/-- Making the items of all decisions about an input never breaches. -/
theorem sound_itemsOf (c : Classifier) (index : Nat) (i : Input) (decisions : List Decision)
    (last : Nat) : Answer.Sound (c.itemsOf index i decisions last).1 := by
  induction decisions generalizing last with
  | nil => exact Answer.sound_ok _
  | cons decision decisions ih =>
    have hitem := c.sound_item (last + 1) index i decision
    unfold itemsOf
    split
    · rename_i e he
      exact Answer.Sound.error (he ▸ hitem)
    · exact (ih (last + 1)).map _

/-- **No breach.** Without matching, an input is classified or cannot be for a known cause. -/
theorem sound_planned (c : Classifier) (index : Nat) (i : Input) (last : Nat) :
    Answer.Sound (c.planned index i last).1 := by
  have hplan : Answer.Sound (c.plan i) := by
    refine (c.sound_identity i).bind fun id => ?_
    split
    · exact Answer.sound_ok _
    · split
      · exact Answer.sound_ok _
      · exact c.sound_decide _
  unfold planned
  split
  · rename_i e he
    exact Answer.Sound.error (he ▸ hplan)
  · exact c.sound_itemsOf _ _ _ _

/-! ### Batches -/

/-- The same classification when another number of requests is sent together. -/
def batched (c : Classifier) (size : Nat) : Classifier :=
  { c with options := { c.options with batchSize := size } }

/-- The size of batches does not show in the values that are set. -/
theorem setValues_batched (c : Classifier) (size : Nat) (operation : Operation)
    (entries : List (String × InputValue)) (r : Record) :
    (c.batched size).setValues operation entries r = c.setValues operation entries r := by
  induction entries generalizing r with
  | nil => rfl
  | cons entry entries ih =>
    have hskips : (c.batched size).skips operation entry.1 = c.skips operation entry.1 := rfl
    have hentity : (c.batched size).entity = c.entity := rfl
    rw [setValues, setValues, hskips, hentity]
    simp only [ih]

/-- The size of batches does not show in an item. -/
theorem item_batched (c : Classifier) (size token index : Nat) (i : Input) (decision : Decision) :
    (c.batched size).item token index i decision = c.item token index i decision := by
  unfold item record
  simp only [setValues_batched]
  rfl

/-- The size of batches does not show in the items of an input. -/
theorem itemsOf_batched (c : Classifier) (size index : Nat) (i : Input)
    (decisions : List Decision) (last : Nat) :
    (c.batched size).itemsOf index i decisions last = c.itemsOf index i decisions last := by
  induction decisions generalizing last with
  | nil => rfl
  | cons decision decisions ih => rw [itemsOf, itemsOf, item_batched, ih]

/-- The size of batches does not show in what an input is planned to be. -/
theorem planned_batched (c : Classifier) (size index : Nat) (i : Input) (last : Nat) :
    (c.batched size).planned index i last = c.planned index i last := by
  have hplan : (c.batched size).plan i = c.plan i := rfl
  unfold planned
  rw [hplan]
  cases c.plan i with
  | error e => rfl
  | ok decisions => exact c.itemsOf_batched size index i decisions last

end Classifier

end RecordService
