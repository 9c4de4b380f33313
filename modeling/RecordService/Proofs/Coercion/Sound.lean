import RecordService.Coercion
import RecordService.Proofs.Answer

namespace RecordService

/-!
# What coercion fails with

A value that an attribute cannot take is a failure with a cause: it does not match the type, or it
is no identifier and no reference. Whatever comes in, coercion takes nothing for granted that might
not hold.

* `Answer.Sound`: an answer that is no breach, with what keeps it so.
* `Answer.FailsBy`: an answer that only fails by certain causes, with what keeps it so.
* `Attribute.failsBy_coerce`, `Json.failsBy_guess`: the causes for which a value is not taken.
* `Attribute.sound_coerce`: in particular coercion never breaches.
-/

namespace Answer

variable {α β : Type}

/-! ### Sound answers -/

/-- Whether an answer is a result or a failure with a cause. -/
def Sound (r : Answer α) : Prop :=
  r ≠ .error .breach

/-- A result is no breach. -/
theorem sound_ok (a : α) : Sound (.ok a) := nofun

/-- A failure that is told in layers is no breach. -/
theorem sound_error (contexts : List Layer) (root : Layer) :
    Sound (.error (.error contexts root) : Answer α) := nofun

/-- A failure with a cause is no breach. -/
theorem sound_fail (c : Cause) : Sound (fail c : Answer α) := nofun

/-- A failure is told by an answer of another kind. -/
theorem Sound.error {e : Failure} (h : Sound (.error e : Answer α)) :
    Sound (.error e : Answer β) :=
  fun hbreach => h (congrArg Except.error (Except.error.inj hbreach))

/-- If an answer is sound and so is whatever is done with its result, both in a row are sound. -/
theorem Sound.bind {r : Answer α} {f : α → Answer β} (hr : Sound r) (hf : ∀ a, Sound (f a)) :
    Sound (r >>= f) := by
  cases r with
  | ok a => exact hf a
  | error e => exact hr.error

/-- Changing the result of a sound answer leaves it sound. -/
theorem Sound.map {r : Answer α} (h : Sound r) (f : α → β) : Sound (r.map f) := by
  cases r with
  | ok a => exact sound_ok _
  | error e => exact h.error

/-- A layer around the failure of a sound answer leaves it sound: a breach has no layers. -/
theorem Sound.within {r : Answer α} (h : Sound r) (layer : Layer) :
    Sound (r.mapError (.within layer)) := by
  cases r with
  | ok a => exact sound_ok a
  | error e =>
    cases e with
    | breach => exact absurd rfl h
    | error => exact nofun

/-! ### Causes of failures -/

/-- Whether an answer that is a failure has one of certain causes. -/
def FailsBy (p : Cause → Prop) (r : Answer α) : Prop :=
  ∀ e, r = .error e → ∃ c, e.kind? = some c ∧ p c

variable {p q : Cause → Prop}

/-- A result fails by no cause at all. -/
theorem failsBy_ok (a : α) : FailsBy p (.ok a) := nofun

/-- A failure with a cause that is allowed fails by that one. -/
theorem failsBy_fail {c : Cause} (hc : p c) : FailsBy p (fail c : Answer α) := by
  intro e he
  cases he
  exact ⟨c, rfl, hc⟩

/-- What fails by one set of causes fails by every larger one. -/
theorem FailsBy.mono {r : Answer α} (h : FailsBy p r) (hpq : ∀ c, p c → q c) : FailsBy q r := by
  intro e he
  obtain ⟨c, hkind, hc⟩ := h e he
  exact ⟨c, hkind, hpq c hc⟩

/-- The causes of two answers in a row are those of the one and of the other. -/
theorem FailsBy.bind {r : Answer α} {f : α → Answer β} (hr : FailsBy p r)
    (hf : ∀ a, FailsBy p (f a)) : FailsBy p (r >>= f) := by
  cases r with
  | ok a => exact hf a
  | error e =>
    intro e' he
    cases he
    exact hr e rfl

/-- Changing the result adds no cause. -/
theorem FailsBy.map {r : Answer α} (h : FailsBy p r) (f : α → β) : FailsBy p (r.map f) := by
  cases r with
  | ok a => exact failsBy_ok (f a)
  | error e =>
    intro e' he
    cases he
    exact h e rfl

/-- A list of answers fails by the causes of its members. -/
theorem FailsBy.mapM {f : α → Answer β} {as : List α} (hf : ∀ a ∈ as, FailsBy p (f a)) :
    FailsBy p (as.mapM f) := by
  induction as with
  | nil => exact failsBy_ok []
  | cons a as ih =>
    rw [List.forall_mem_cons] at hf
    rw [List.mapM_cons]
    exact hf.1.bind fun b => (ih hf.2).bind fun bs => failsBy_ok (b :: bs)

/-- Of a failure that is told inside of a cause, that cause counts. -/
theorem Sound.within_cause {r : Answer α} (h : Sound r) {c : Cause} (hc : p c) :
    FailsBy p (r.mapError (.within (.cause c))) := by
  cases r with
  | ok a => exact failsBy_ok a
  | error e =>
    cases e with
    | breach => exact absurd rfl h
    | error contexts root =>
      intro e' he
      cases he
      exact ⟨c, rfl, hc⟩

/-- A breach has no cause. -/
theorem FailsBy.sound {r : Answer α} (h : FailsBy p r) : Sound r := by
  rintro rfl
  obtain ⟨c, hc, -⟩ := h .breach rfl
  exact nomatch hc

end Answer

open Answer

/-- The causes for which a value is not taken. -/
inductive Cause.IsConversion : Cause → Prop where
  | typeMismatch (name message : String) : IsConversion (.typeMismatch name message)
  | format (message : String) : IsConversion (.format message)

/-- A value that does not match the type is not taken. -/
theorem failsBy_typeMismatch {α : Type} (name message : String) :
    FailsBy Cause.IsConversion (fail (.typeMismatch name message) : Answer α) :=
  failsBy_fail (.typeMismatch name message)

/-- An identifier or a reference that is not well formed is not taken. -/
theorem failsBy_format {α : Type} (message : String) :
    FailsBy Cause.IsConversion (fail (.format message) : Answer α) :=
  failsBy_fail (.format message)

/-! ### Parts of coercion -/

/-- Whatever the shape of the data, a reference is refused with a conversion error. -/
theorem Reference.failsBy_ofJson (a? : Option Attribute) (j : Json) :
    FailsBy Cause.IsConversion (Reference.ofJson a? j) := by
  unfold Reference.ofJson
  dsimp only
  split
  · split
    · exact failsBy_format _
    · split
      · exact failsBy_ok _
      · exact failsBy_format _
  · split
    · exact failsBy_format _
    · split
      · exact failsBy_format _
      · split
        · exact failsBy_ok _
        · exact failsBy_format _
  · exact failsBy_format _

/-- Reading a point in time refuses a text by an error and never breaches, whatever the text. -/
theorem Timestamp.sound_read (s : String) : Sound (Timestamp.read s) := by
  unfold Timestamp.read
  split
  · exact sound_ok _
  · exact sound_error _ _

/-- Reading a date refuses a text by an error and never breaches, whatever the text. -/
theorem Date.sound_read (s : String) : Sound (Date.read s) := by
  unfold Date.read
  split
  · exact sound_ok _
  · exact ((Timestamp.sound_read s).map _).within _

namespace Attribute

variable (a : Attribute)

/-- A mismatch is a conversion error. -/
theorem failsBy_mismatch {α : Type} (text : String) :
    FailsBy Cause.IsConversion (a.mismatch text : Answer α) :=
  failsBy_typeMismatch _ _

/-- A value that is missing is reported as a mismatch, and one that is there is no failure. -/
theorem failsBy_orMismatch {α : Type} (text : String) (x : Option α) :
    FailsBy Cause.IsConversion (a.orMismatch text x) := by
  cases x with
  | none => exact a.failsBy_mismatch text
  | some x => exact failsBy_ok x

/-- A reference is refused for its target only. -/
theorem failsBy_checkTarget (r : Reference) : FailsBy Cause.IsConversion (a.checkTarget r) := by
  unfold checkTarget
  split
  · exact failsBy_typeMismatch _ _
  · exact failsBy_ok _

/-- Data that are no integer are refused as a mismatch. -/
theorem failsBy_readInteger (j : Json) : FailsBy Cause.IsConversion (a.readInteger j) := by
  unfold readInteger
  split
  · split
    · exact failsBy_ok _
    · exact a.failsBy_mismatch _
  · exact failsBy_ok _
  · exact a.failsBy_orMismatch _ _

/-- A code without an option is refused as a mismatch. -/
theorem failsBy_choiceOfCode (code : Int64) :
    FailsBy Cause.IsConversion (a.choiceOfCode code) := by
  unfold choiceOfCode
  split
  · exact a.failsBy_mismatch _
  · split
    · exact failsBy_ok _
    · split
      · exact failsBy_ok _
      · exact failsBy_typeMismatch _ _

/-- A choice is refused for its form, for a label that no option has, or for its code. -/
theorem failsBy_coerceChoice (j : Json) : FailsBy Cause.IsConversion (a.coerceChoice j) := by
  have hcode : ∀ j, FailsBy Cause.IsConversion (a.readInteger j >>= a.choiceOfCode) :=
    fun j => (a.failsBy_readInteger j).bind a.failsBy_choiceOfCode
  unfold coerceChoice
  split
  · split
    · exact hcode _
    · split
      · exact a.failsBy_choiceOfCode _
      · exact a.failsBy_mismatch _
  · split
    · exact hcode _
    · exact a.failsBy_mismatch _
  · exact hcode _

/-- A truth value is refused for its form or for a label that neither option has. -/
theorem failsBy_coerceBoolean (j : Json) : FailsBy Cause.IsConversion (a.coerceBoolean j) := by
  unfold coerceBoolean
  split
  · exact failsBy_ok _
  · dsimp only
    split
    · exact failsBy_ok _
    · split
      · exact failsBy_ok _
      · split
        · exact failsBy_ok _
        · exact a.failsBy_mismatch _
  · exact (a.failsBy_readInteger _).map _
  · exact (a.failsBy_readInteger _).map _
  · exact a.failsBy_mismatch _

/-- A decimal is refused for its form, for digits that do not read as one, or for its size. -/
theorem failsBy_coerceDecimal (j : Json) : FailsBy Cause.IsConversion (a.coerceDecimal j) := by
  unfold coerceDecimal
  refine FailsBy.map ?_ _
  split
  · exact a.failsBy_orMismatch _ _
  · exact a.failsBy_orMismatch _ _
  · exact a.failsBy_orMismatch _ _
  · exact a.failsBy_mismatch _

/-- Text is refused for its form only. -/
theorem failsBy_coerceText (j : Json) : FailsBy Cause.IsConversion (a.coerceText j) := by
  unfold coerceText
  split
  · exact failsBy_ok _
  · exact failsBy_ok _
  · exact failsBy_ok _
  · exact failsBy_ok _
  · exact a.failsBy_mismatch _

/-- A double is refused for its form or for digits that do not read as one. -/
theorem failsBy_coerceDouble (j : Json) : FailsBy Cause.IsConversion (a.coerceDouble j) := by
  unfold coerceDouble
  split
  · exact (a.failsBy_orMismatch _ _).map _
  · exact (a.failsBy_orMismatch _ _).map _

/-- What is wrong with a date or a point in time is told inside of a mismatch. -/
theorem failsBy_coerceDateTime (j : Json) : FailsBy Cause.IsConversion (a.coerceDateTime j) := by
  unfold coerceDateTime
  split
  · split
    · exact ((Date.sound_read _).within_cause (.typeMismatch _ _)).map _
    · exact ((Timestamp.sound_read _).within_cause (.typeMismatch _ _)).map _
  · exact a.failsBy_mismatch _

/-- An identifier is refused for its form, as a mismatch or as text that is not well formed. -/
theorem failsBy_coerceUuid (j : Json) : FailsBy Cause.IsConversion (a.coerceUuid j) := by
  unfold coerceUuid
  split
  · split
    · exact failsBy_ok _
    · exact failsBy_format _
  · exact a.failsBy_mismatch _

/-! ### Coercion -/

/-- Loose data fail by a conversion error only, for every type of attribute. -/
theorem failsBy_coerceJson (j : Json) : FailsBy Cause.IsConversion (a.coerceJson j) := by
  have hreference : FailsBy Cause.IsConversion (Reference.ofJson a j >>= a.checkTarget) :=
    (Reference.failsBy_ofJson a j).bind a.failsBy_checkTarget
  unfold coerceJson
  split
  · exact failsBy_ok _
  · exact a.failsBy_mismatch _
  · cases a.type with
    | string => exact a.failsBy_coerceText j
    | memo => exact a.failsBy_coerceText j
    | integer => exact (a.failsBy_readInteger j).bind fun _ => a.failsBy_orMismatch _ _
    | bigInt => exact (a.failsBy_readInteger j).map _
    | double => exact a.failsBy_coerceDouble j
    | decimal => exact (a.failsBy_coerceDecimal j).map _
    | money => exact (a.failsBy_coerceDecimal j).map _
    | boolean => exact a.failsBy_coerceBoolean j
    | dateTime => exact a.failsBy_coerceDateTime j
    | picklist => exact a.failsBy_coerceChoice j
    | state => exact a.failsBy_coerceChoice j
    | status => exact a.failsBy_coerceChoice j
    | lookup => exact hreference
    | customer => exact hreference
    | owner => exact hreference
    | uniqueidentifier => exact a.failsBy_coerceUuid j

/-- A typed value fails by a conversion error only: it is taken as it is or read like loose data. -/
theorem failsBy_coerceValue (v : Value) : FailsBy Cause.IsConversion (a.coerceValue v) := by
  unfold coerceValue
  split
  · exact failsBy_ok _
  · split
    · split
      · exact a.failsBy_checkTarget _
      · exact a.failsBy_choiceOfCode _
      · exact failsBy_ok _
    · split
      · exact (Reference.failsBy_ofJson _ _).bind a.failsBy_checkTarget
      · exact failsBy_ok _
      · exact a.failsBy_coerceJson _

/-- **Causes.** Whatever comes in, coercion fails only by a value that is not taken. -/
theorem failsBy_coerce (x : InputValue) : FailsBy Cause.IsConversion (a.coerce x) := by
  cases x with
  | loose j => exact a.failsBy_coerceJson j
  | typed v => exact a.failsBy_coerceValue v

/-- **No breach.** Whatever comes in, coercion has a result or a failure with a cause. -/
theorem sound_coerce (x : InputValue) : Sound (a.coerce x) :=
  (a.failsBy_coerce x).sound

end Attribute

/-- A value of which no attribute is known is not taken for the same causes. -/
theorem Json.failsBy_guess (j : Json) : FailsBy Cause.IsConversion j.guess := by
  unfold guess
  split
  · exact failsBy_ok _
  · exact failsBy_ok _
  · exact failsBy_ok _
  · exact failsBy_ok _
  · exact failsBy_ok _
  · exact (Reference.failsBy_ofJson _ _).map _
  · exact failsBy_typeMismatch _ _

end RecordService
