import RecordService.Proofs.Coercion.RoundTrip
import RecordService.Proofs.Number.Binary64

namespace RecordService

/-!
# Numbers for attributes of integers

An attribute of integers takes a number without a fraction, in whatever form it comes, and refuses
all others. One of 32 bits also refuses what is out of its range. One of 64 bits does not: it takes
the nearest integer that it can hold, which then is another number.

* `Json.rational?`, `Value.integer?`: the number that comes in, and the one that comes out.
* `Attribute.wholeNumber?_of_value`, `Attribute.wholeNumber?_int`: whole numbers are cut to 64 bits.
* `Attribute.coerceJson_integer_iff`, `Attribute.coerceJson_bigInt_iff`: the numbers that are taken.
* `Attribute.coerce_number_iff`: when the number that comes out is the one that came in.
-/

/-- The number that loose data are: an integer of 64 bits, with a sign or without, or a finite
double. -/
def Json.rational? : Json → Option ℚ
  | int n => if -2 ^ 63 ≤ n ∧ n < 2 ^ 64 then some n else none
  | double x => if x.isFinite then some x.value else none
  | _ => none

/-- The integer that a value is. -/
def Value.integer? : Value → Option Int
  | int32 (some n) => some n.toInt
  | int64 (some n) => some n.toInt
  | _ => none

namespace Attribute

open Binary64 (clamp64 clamp64_eq_self_iff)

variable {a : Attribute} {j : Json} {q : ℚ} {n : Int} {v : Value} {e : Failure}

/-! ### Integers of 64 bits -/

/-- A number is a single value. -/
theorem isSingle_of_rational? (h : j.rational? = some q) : IsSingle j := by
  cases j with
  | int => trivial
  | double => trivial
  | _ => exact nomatch h

/-- Whatever is cut to 64 bits has 64 bits, so that nothing is lost when it is stored. -/
theorem toInt_ofInt_clamp64 (n : Int) : (Int64.ofInt (clamp64 n)).toInt = clamp64 n := by
  have hrange : -2 ^ 63 ≤ clamp64 n ∧ clamp64 n < 2 ^ 63 := by
    rw [clamp64]
    omega
  exact Int64.toInt_ofInt_of_le hrange.1 hrange.2

/-- The integer of 64 bits that a number is read as, by way of a double if it is none itself. -/
def wholeNumber? (j : Json) : Option Int64 :=
  j.int64? <|> (j.binary64?.filter (·.isWhole)).map fun x => Int64.ofInt x.toInt64

/-- A number is read as a whole number, or it is a mismatch. -/
theorem readInteger_of_rational? (a : Attribute) (h : j.rational? = some q) :
    a.readInteger j = a.orMismatch j.toText (wholeNumber? j) := by
  cases j with
  | int => rfl
  | double => rfl
  | _ => exact nomatch h

/-- A double without a fraction is cut to the integer that is nearest to it. -/
theorem wholeNumber?_of_value {x : Binary64} (hfinite : x.isFinite = true) (h : x.value = n) :
    wholeNumber? (.double x) = some (.ofInt (clamp64 n)) := by
  have hwhole := (Binary64.isWhole_iff hfinite).2 ⟨n, h⟩
  show ((some x).filter (·.isWhole)).map _ = _
  rw [Option.filter_some, if_pos hwhole, Option.map_some, Binary64.toInt64_of_value hfinite h]

/-- An integer of up to 64 bits is taken as it is, or by way of the nearest double. -/
theorem wholeNumber?_int (hlow : -2 ^ 63 ≤ n) (hhigh : n < 2 ^ 64) :
    wholeNumber? (.int n) = some (.ofInt (clamp64 n)) := by
  by_cases hn : n < 2 ^ 63
  · have hread : (Json.int n).int64? = some (.ofInt n) := if_pos ⟨hlow, hn⟩
    have hsame : clamp64 n = n := clamp64_eq_self_iff.2 (by omega)
    rw [wholeNumber?, hread, hsame]
    rfl
  · have hread : (Json.int n).int64? = none := if_neg fun hrange => hn hrange.2
    have hdouble : wholeNumber? (.int n) = wholeNumber? (.double (.ofInt n)) := by
      rw [wholeNumber?, hread]
      rfl
    -- rounding may change the integer, but it stays beyond the bound
    obtain ⟨hfinite, k, hk, hvalue⟩ := Binary64.value_ofInt (by omega) hhigh
    have hcut : clamp64 k = clamp64 n := by
      rw [clamp64, clamp64]
      omega
    rw [hdouble, wholeNumber?_of_value hfinite hvalue, hcut]

/-- A number without a fraction is read as the integer of 64 bits that is nearest to it. -/
theorem readInteger_of_whole (h : j.rational? = some (n : ℚ)) :
    a.readInteger j = .ok (.ofInt (clamp64 n)) := by
  rw [readInteger_of_rational? a h]
  cases j with
  | int m =>
    rw [Json.rational?, Option.ite_none_right_eq_some, Option.some.injEq, Int.cast_inj] at h
    obtain ⟨⟨hlow, hhigh⟩, rfl⟩ := h
    rw [wholeNumber?_int hlow hhigh]
    rfl
  | double x =>
    rw [Json.rational?, Option.ite_none_right_eq_some, Option.some.injEq] at h
    rw [wholeNumber?_of_value h.1 h.2]
    rfl
  | _ => exact nomatch h

/-- A number with a fraction is not read as an integer. -/
theorem readInteger_of_not_whole (h : j.rational? = some q) (hq : ¬∃ n : Int, (n : ℚ) = q) :
    a.readInteger j = a.mismatch j.toText := by
  rw [readInteger_of_rational? a h]
  cases j with
  | int m =>
    rw [Json.rational?, Option.ite_none_right_eq_some, Option.some.injEq] at h
    exact absurd ⟨m, h.2⟩ hq
  | double x =>
    rw [Json.rational?, Option.ite_none_right_eq_some, Option.some.injEq] at h
    obtain ⟨hfinite, rfl⟩ := h
    have hfraction : ¬x.isWhole = true := by
      rw [Binary64.isWhole_iff hfinite]
      exact fun ⟨n, hn⟩ => hq ⟨n, hn.symm⟩
    have hnone : wholeNumber? (.double x) = none := by
      show ((some x).filter (·.isWhole)).map _ = _
      rw [Option.filter_some, if_neg hfraction, Option.map_none]
    rw [hnone]
    rfl
  | _ => exact nomatch h

/-! ### Integers of 32 bits -/

/-- What was cut to 64 bits is narrowed to the number itself or not at all. -/
theorem narrow?_clamp64_iff {m : Int32} :
    narrow? (.ofInt (clamp64 n)) = some m ↔ m.toInt = n := by
  have hlow := m.le_toInt
  have hhigh := m.toInt_lt
  constructor
  · intro h
    have hcut : m.toInt = clamp64 n := by
      rw [← toInt_ofInt_clamp64, ← toInt64_of_narrow? h, Int32.toInt_toInt64]
    rw [clamp64] at hcut
    omega
  · rintro rfl
    have hsame : clamp64 m.toInt = m.toInt := clamp64_eq_self_iff.2 (by omega)
    have hwide : Int64.ofInt m.toInt = m.toInt64 := by
      rw [← Int64.ofInt_toInt m.toInt64, Int32.toInt_toInt64]
    rw [hsame, hwide, narrow?_toInt64]

/-! ### What is taken -/

/-- A number is read as an integer or not at all. -/
theorem readInteger_cases (a : Attribute) (h : j.rational? = some q) :
    (∃ n : Int, (n : ℚ) = q ∧ a.readInteger j = .ok (.ofInt (clamp64 n))) ∨
      (¬∃ n : Int, (n : ℚ) = q) ∧ a.readInteger j = a.mismatch j.toText := by
  by_cases hwhole : ∃ n : Int, (n : ℚ) = q
  · obtain ⟨n, rfl⟩ := hwhole
    exact .inl ⟨n, rfl, readInteger_of_whole h⟩
  · exact .inr ⟨hwhole, readInteger_of_not_whole h hwhole⟩

/-- An attribute of 32 bits takes what is read as 64 bits if it has no more than 32. -/
theorem coerceJson_integer (htype : a.type = .integer) (h : j.rational? = some q) :
    a.coerceJson j = a.readInteger j >>= fun n =>
      a.orMismatch (Value.intText n.toInt) ((narrow? n).map fun m => .int32 (some m)) := by
  have hkind : a.type.kind = .int32 := by rw [htype]; rfl
  exact coerceJson_eq_coerceByKind hkind (isSingle_of_rational? h)

/-- An attribute of 64 bits takes what is read as it is. -/
theorem coerceJson_bigInt (htype : a.type = .bigInt) (h : j.rational? = some q) :
    a.coerceJson j = (a.readInteger j).map fun n => .int64 (some n) := by
  have hkind : a.type.kind = .int64 := by rw [htype]; rfl
  exact coerceJson_eq_coerceByKind hkind (isSingle_of_rational? h)

/-- An attribute of 32 bits takes the integers of its range, and keeps them as they are. -/
theorem coerceJson_integer_iff (htype : a.type = .integer) (h : j.rational? = some q) :
    a.coerceJson j = .ok v ↔ ∃ m : Int32, (m.toInt : ℚ) = q ∧ v = .int32 (some m) := by
  rw [coerceJson_integer htype h]
  rcases a.readInteger_cases h with ⟨n, rfl, hread⟩ | ⟨hfraction, hread⟩
  · rw [hread, Answer.ok_bind, orMismatch_eq_ok, Option.map_eq_some_iff]
    simp only [narrow?_clamp64_iff, Int.cast_inj]
    exact exists_congr fun m => and_congr_right fun _ => eq_comm
  · rw [hread]
    constructor
    · exact nofun
    · rintro ⟨m, hm, -⟩
      exact absurd ⟨m.toInt, hm⟩ hfraction

/-- An attribute of 64 bits takes all integers, and cuts them to its range. -/
theorem coerceJson_bigInt_iff (htype : a.type = .bigInt) (h : j.rational? = some q) :
    a.coerceJson j = .ok v ↔
      ∃ n : Int, (n : ℚ) = q ∧ v = .int64 (some (.ofInt (clamp64 n))) := by
  rw [coerceJson_bigInt htype h, Answer.map_eq_ok]
  rcases a.readInteger_cases h with ⟨n, rfl, hread⟩ | ⟨hfraction, hread⟩
  · rw [hread]
    simp [eq_comm]
  · rw [hread]
    constructor
    · exact nofun
    · rintro ⟨n, hn, -⟩
      exact absurd ⟨n, hn⟩ hfraction

/-- The failure of what does not fit the type. -/
def IsMismatch (a : Attribute) (e : Failure) : Prop :=
  ∃ text, e = .of (.typeMismatch a.name text)

/-- Nothing is done after a mismatch. -/
theorem mismatch_bind {α β : Type} (a : Attribute) (text : String) (f : α → Answer β) :
    a.mismatch text >>= f = a.mismatch text := rfl

/-- Nothing changes a mismatch. -/
theorem mismatch_map {α β : Type} (a : Attribute) (text : String) (f : α → β) :
    (a.mismatch text : Answer α).map f = a.mismatch text := rfl

/-- A mismatch is a failure of what does not fit the type. -/
theorem isMismatch_of_mismatch {α : Type} {text : String}
    (h : (a.mismatch text : Answer α) = .error e) : a.IsMismatch e :=
  ⟨_, (Except.error.inj h).symm⟩

/-- A missing value is a failure of what does not fit the type. -/
theorem isMismatch_of_orMismatch {α : Type} {text : String} {o : Option α}
    (h : a.orMismatch text o = .error e) : a.IsMismatch e := by
  cases o with
  | none => exact isMismatch_of_mismatch h
  | some x => exact nomatch h

/-- A number that is not taken does not fit the type. -/
theorem isMismatch_of_coerceJson (htype : a.type = .integer ∨ a.type = .bigInt)
    (h : j.rational? = some q) (he : a.coerceJson j = .error e) : a.IsMismatch e := by
  rcases htype with htype | htype
  · rw [coerceJson_integer htype h] at he
    rcases a.readInteger_cases h with ⟨n, -, hread⟩ | ⟨-, hread⟩
    · rw [hread, Answer.ok_bind] at he
      exact isMismatch_of_orMismatch he
    · rw [hread, mismatch_bind] at he
      exact isMismatch_of_mismatch he
  · rw [coerceJson_bigInt htype h] at he
    rcases a.readInteger_cases h with ⟨n, -, hread⟩ | ⟨-, hread⟩
    · rw [hread] at he
      exact nomatch he
    · rw [hread, mismatch_map] at he
      exact isMismatch_of_mismatch he

/-! ### The number is kept -/

/-- Whether what is made of a number is an integer of the same value, or else the failure of what
does not fit the type. -/
def KeepsNumber (a : Attribute) (q : ℚ) (r : Answer Value) : Prop :=
  (∃ v n, r = .ok v ∧ v.integer? = some n ∧ (n : ℚ) = q) ∨ ∃ e, r = .error e ∧ a.IsMismatch e

/-- Whether a number is an integer out of the range of 64 bits. -/
def Oversized (q : ℚ) : Prop :=
  ∃ n : Int, (n : ℚ) = q ∧ (n < -2 ^ 63 ∨ 2 ^ 63 ≤ n)

/-- The numbers that are taken, and what becomes of them. -/
theorem coerceJson_number_iff (htype : a.type = .integer ∨ a.type = .bigInt)
    (h : j.rational? = some q) :
    a.coerceJson j = .ok v ↔
      (a.type = .integer ∧ ∃ m : Int32, (m.toInt : ℚ) = q ∧ v = .int32 (some m)) ∨
        (a.type = .bigInt ∧
          ∃ n : Int, (n : ℚ) = q ∧ v = .int64 (some (.ofInt (clamp64 n)))) := by
  rcases htype with htype | htype
  · simp [coerceJson_integer_iff htype h, htype]
  · simp [coerceJson_bigInt_iff htype h, htype]

/-- A value that is taken is the number itself, unless it is cut. -/
theorem keepsNumber_ok_iff (htype : a.type = .integer ∨ a.type = .bigInt)
    (h : j.rational? = some q) (hv : a.coerceJson j = .ok v) :
    a.KeepsNumber q (.ok v) ↔ ¬(a.type = .bigInt ∧ Oversized q) := by
  have hkeeps : a.KeepsNumber q (.ok v) ↔ ∃ n, v.integer? = some n ∧ (n : ℚ) = q := by
    simp [KeepsNumber]
  rw [hkeeps]
  rcases (coerceJson_number_iff htype h).1 hv with ⟨htype, m, hm, rfl⟩ | ⟨htype, n, rfl, rfl⟩
  · have hother : a.type ≠ .bigInt := by rw [htype]; exact nofun
    exact iff_of_true ⟨_, rfl, hm⟩ fun hlarge => hother hlarge.1
  · -- what comes out is in range, and is what came in if that was in range too
    have hout : (Value.int64 (some (.ofInt (clamp64 n)))).integer? = some (clamp64 n) :=
      congrArg some (toInt_ofInt_clamp64 n)
    have hlarge : Oversized (n : ℚ) ↔ n < -2 ^ 63 ∨ 2 ^ 63 ≤ n := by
      simp [Oversized]
    rw [hlarge, and_iff_right htype, ← clamp64_eq_self_iff, hout]
    simp

/-- **Numbers for integers.** An attribute of 32 bits takes the integers of its range, and one of 64
bits takes all integers and cuts them to its range. Whatever is not taken does not fit the type. So
the number that comes out is the one that came in, unless an attribute of 64 bits gets an integer
out of its range. -/
theorem coerce_number_iff (htype : a.type = .integer ∨ a.type = .bigInt)
    (h : j.rational? = some q) :
    (a.KeepsNumber q (a.coerce (.loose j)) ↔ ¬(a.type = .bigInt ∧ Oversized q)) ∧
      (∀ v, a.coerce (.loose j) = .ok v ↔
        (a.type = .integer ∧ ∃ m : Int32, (m.toInt : ℚ) = q ∧ v = .int32 (some m)) ∨
          (a.type = .bigInt ∧
            ∃ n : Int, (n : ℚ) = q ∧ v = .int64 (some (.ofInt (clamp64 n))))) ∧
      ∀ e, a.coerce (.loose j) = .error e → a.IsMismatch e := by
  have hcoerce : a.coerce (.loose j) = a.coerceJson j := rfl
  have hfailure (e : Failure) (he : a.coerceJson j = .error e) : a.IsMismatch e :=
    isMismatch_of_coerceJson htype h he
  rw [hcoerce]
  refine ⟨?_, fun v => coerceJson_number_iff htype h, hfailure⟩
  cases hanswer : a.coerceJson j with
  | ok v => exact keepsNumber_ok_iff htype h hanswer
  | error e =>
    refine iff_of_true (.inr ⟨e, rfl, hfailure e hanswer⟩) ?_
    rintro ⟨hbig, n, rfl, -⟩
    -- an attribute of 64 bits takes all integers
    exact nomatch hanswer.symm.trans ((coerceJson_bigInt_iff hbig h).2 ⟨n, rfl, rfl⟩)

namespace Sample

/-- A count of 64 bits. -/
def population : Attribute :=
  ofType "population" .bigInt

/-- The double `2 ^ 62`. -/
def largeCount : Json :=
  .double ⟨0x43D0000000000000⟩

/-- The least integer that needs all 64 bits. -/
def oversizedCount : Json :=
  .int (2 ^ 63)

end Sample

/-- A large double without a fraction is taken as the integer that it is. -/
theorem coerce_number_iff_large :
    Sample.population.type = .bigInt ∧ Sample.largeCount.rational? = some ((2 ^ 62 : Int) : ℚ) ∧
      Sample.population.coerce (.loose Sample.largeCount) =
        .ok (.int64 (some 4611686018427387904)) ∧
      Sample.population.KeepsNumber ((2 ^ 62 : Int) : ℚ)
        (Sample.population.coerce (.loose Sample.largeCount)) := by
  have hvalue : Binary64.value ⟨0x43D0000000000000⟩ = ((2 ^ 62 : Int) : ℚ) := by
    rw [Binary64.value_eq_truncate (by decide +kernel)]
    have htruncate : Binary64.truncate ⟨0x43D0000000000000⟩ = 2 ^ 62 := by decide +kernel
    rw [htruncate]
  have hnumber : Sample.largeCount.rational? = some ((2 ^ 62 : Int) : ℚ) := by
    rw [Sample.largeCount, Json.rational?, if_pos (by decide +kernel), hvalue]
  have hinRange : ¬Oversized ((2 ^ 62 : Int) : ℚ) := by
    rintro ⟨n, hn, hlarge⟩
    obtain rfl : n = 2 ^ 62 := by exact_mod_cast hn
    omega
  obtain ⟨hkeeps, -, -⟩ := coerce_number_iff (a := Sample.population) (.inr rfl) hnumber
  exact ⟨rfl, hnumber, by decide +kernel, hkeeps.2 fun hlarge => hinRange hlarge.2⟩

/-- An integer that needs all 64 bits is taken as the one before it. The same digits as a text are
refused. -/
theorem coerce_number_oversized :
    Sample.oversizedCount.rational? = some ((2 ^ 63 : Int) : ℚ) ∧
      Sample.population.coerce (.loose Sample.oversizedCount) =
        .ok (.int64 (some 9223372036854775807)) ∧
      ¬Sample.population.KeepsNumber ((2 ^ 63 : Int) : ℚ)
        (Sample.population.coerce (.loose Sample.oversizedCount)) ∧
      Sample.population.coerce (.loose (.string "9223372036854775808")) =
        Sample.population.mismatch "9223372036854775808" := by
  have htaken : Sample.population.coerce (.loose Sample.oversizedCount) =
      .ok (.int64 (some 9223372036854775807)) := by decide +kernel
  have hnumber : Sample.oversizedCount.rational? = some ((2 ^ 63 : Int) : ℚ) := by
    rw [Sample.oversizedCount, Json.rational?, if_pos (by decide)]
  refine ⟨hnumber, htaken, ?_, by decide +kernel⟩
  rw [htaken]
  rintro (⟨v, n, hv, hn, hsame⟩ | ⟨e, he, -⟩)
  · cases hv
    obtain rfl : n = 2 ^ 63 := by exact_mod_cast hsame
    exact absurd (Option.some.inj hn) (by decide)
  · exact nomatch he

end Attribute

end RecordService
