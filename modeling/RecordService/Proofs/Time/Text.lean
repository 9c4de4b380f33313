import RecordService.Proofs.Text.Numeral
import RecordService.Proofs.Time.Forms
import Mathlib.Data.List.DropRight

namespace RecordService

/-!
# Dates and times are read as they are written

* `Time.digits?_padded`: digits of a fixed width.
* `Time.date?_chars`: a date at the start of a text.
* `Time.internetForm?_chars`: a point in time that RFC 3339 has a text for.
* `Date.ofText?_toText`, `Timestamp.ofText?_toText`: whole texts.
* `Timestamp.ofText?_date`, `Date.eq_of_ofText?_toText`: the text of the one read as the other.
-/

namespace Time

/-! ### Digits -/

/-- Digits are read as the number they write, whatever follows them. -/
theorem digits?_append {cs : List Char} (h : ∀ c ∈ cs, c.isDigit = true) (rest : List Char) :
    digits? cs.length (cs ++ rest) = some (Nat.ofDigitChars 10 cs 0, rest) := by
  induction cs with
  | nil => rfl
  | cons c cs ih =>
    have hc : c.isDigit = true := h c List.mem_cons_self
    have hcs := ih fun d hd => h d (List.mem_cons_of_mem c hd)
    have hvalue : Nat.ofDigitChars 10 (c :: cs) 0 =
        (c.toNat - '0'.toNat) * 10 ^ cs.length + Nat.ofDigitChars 10 cs 0 := by
      rw [Nat.ofDigitChars_cons, Nat.ofDigitChars_eq_ofDigitChars_zero, Nat.mul_zero, Nat.zero_add,
        Nat.mul_comm]
    rw [List.length_cons, List.cons_append, digits?, if_pos hc, hcs, hvalue]
    rfl

/-- A number that fits its width is read back. -/
theorem digits?_padded {width n : Nat} (hwidth : 0 < width) (hn : n < 10 ^ width)
    (rest : List Char) : digits? width (Date.padded width n ++ rest) = some (n, rest) := by
  have hlength : (Date.padded width n).length = width :=
    Text.length_zeroPadded (by decide) hwidth hn
  have hread := @digits?_append (Date.padded width n) Text.isDigit_zeroPadded rest
  rwa [hlength, show Nat.ofDigitChars 10 (Date.padded width n) 0 = n from
    Text.ofDigitChars_zeroPadded width n] at hread

/-- A number of two digits is read back if it is no more than is allowed. -/
theorem pair?_padded {max n : Nat} (hmax : n ≤ max) (hn : n < 100) (rest : List Char) :
    pair? max (Date.padded 2 n ++ rest) = some (n, rest) := by
  rw [pair?, digits?_padded (by decide) hn, Option.filter_some, if_pos (decide_eq_true hmax)]

theorem mark?_cons (mark : Char) (cs : List Char) : mark? mark (mark :: cs) = some cs :=
  if_pos rfl

/-! ### Dates -/

/-- A year is read with its sign. -/
theorem signedYear?_yearText {year : Int} (hlow : -9999 ≤ year) (hhigh : year ≤ 9999)
    (rest : List Char) : signedYear? (Date.yearText year ++ rest) = some (year, rest) := by
  have hfour : digits? 4 (Date.padded 4 year.natAbs ++ rest) = some (year.natAbs, rest) :=
    digits?_padded (by decide) (by omega) rest
  by_cases hnegative : year < 0
  · rw [Date.yearText, if_pos hnegative]
    show (digits? 4 (Date.padded 4 year.natAbs ++ rest)).map _ = _
    have habs : -(year.natAbs : Int) = year := by omega
    rw [hfour, Option.map_some]
    dsimp only
    rw [habs]
  · have habs : (year.natAbs : Int) = year := by omega
    rw [Date.yearText, if_neg hnegative, List.nil_append]
    cases hdigits : Date.padded 4 year.natAbs with
    | nil => exact absurd hdigits (Text.zeroPadded_ne_nil 10 4 _)
    | cons c cs =>
      have hc : c.isDigit = true :=
        Text.isDigit_zeroPadded c (show c ∈ Date.padded 4 _ from hdigits ▸ List.mem_cons_self)
      rw [hdigits] at hfour
      rw [List.cons_append, signedYear?]
      · rw [← List.cons_append, hfour, Option.map_some]
        dsimp only
        rw [habs]
      · exact fun rest => Text.cons_ne_of_isDigit hc (by decide) _ rest
      · exact fun rest => Text.cons_ne_of_isDigit hc (by decide) _ rest

/-- The parts of a date make the date again. -/
theorem ofParts?_date (d : Date) : Date.ofParts? d.year d.month d.day = some d :=
  dif_pos d.isDate

/-- Month and day are read with their hyphens. -/
theorem monthDay?_chars (d : Date) (rest : List Char) :
    monthDay? d.year
      ('-' :: (Date.padded 2 d.month ++ '-' :: (Date.padded 2 d.day ++ rest))) =
      some (d, rest) := by
  obtain ⟨-, hmonth, hday⟩ := d.isDate
  have hdays : daysInMonth d.year d.month ≤ 31 := by
    unfold daysInMonth
    split
    · split <;> omega
    · split <;> omega
  have hmonths (rest : List Char) :
      digits? 2 (Date.padded 2 d.month ++ rest) = some (d.month, rest) :=
    digits?_padded (by decide) (by omega) rest
  have hdays (rest : List Char) : digits? 2 (Date.padded 2 d.day ++ rest) = some (d.day, rest) :=
    digits?_padded (by decide) (by omega) rest
  simp only [monthDay?, mark?_cons, hmonths, hdays, ofParts?_date, Option.bind_eq_bind,
    Option.bind_some]
  rfl

/-- A date is read from the start of a text. -/
theorem date?_chars (d : Date) (rest : List Char) : date? (d.chars ++ rest) = some (d, rest) := by
  obtain ⟨⟨hlow, hhigh⟩, -⟩ := d.isDate
  have hyear := signedYear?_yearText hlow hhigh
  simp only [date?, Date.chars, List.append_assoc, List.cons_append, hyear, monthDay?_chars,
    Option.bind_eq_bind, Option.bind_some]

/-- A whole text that is a date is read as that date. -/
theorem bareDate?_chars (d : Date) : bareDate? d.chars = some d := by
  have hread := date?_chars d []
  rw [List.append_nil] at hread
  rw [bareDate?, hread]
  rfl

/-! ### Times of day -/

/-- Hour and minute are read as the seconds up to the minute. -/
theorem hourMinute?_clockText (t : Timestamp) (rest : List Char) :
    hourMinute? (t.clockText ++ rest) = some (t.second / 60 * 60, rest) := by
  have hday : t.second < 86400 := t.second_lt
  have hhours (rest : List Char) :
      pair? 23 (Date.padded 2 (t.second / 3600) ++ rest) = some (t.second / 3600, rest) :=
    pair?_padded (by omega) (by omega) rest
  have hminutes (rest : List Char) :
      pair? 59 (Date.padded 2 (t.second / 60 % 60) ++ rest) = some (t.second / 60 % 60, rest) :=
    pair?_padded (by omega) (by omega) rest
  have hsum : t.second / 3600 * 3600 + t.second / 60 % 60 * 60 = t.second / 60 * 60 := by omega
  simp only [hourMinute?, Timestamp.clockText, List.append_assoc, List.cons_append, hhours,
    hminutes, mark?_cons, Option.bind_eq_bind, Option.bind_some]
  rw [hsum]
  rfl

/-- Seconds are read with their colon. -/
theorem seconds?_padded {max n : Nat} (hmax : n ≤ max) (hn : n < 100) (rest : List Char) :
    seconds? max (':' :: (Date.padded 2 n ++ rest)) = some (n, rest) := by
  rw [seconds?, mark?_cons, Option.bind_eq_bind, Option.bind_some, pair?_padded hmax hn]

/-! ### Fractions -/

/-- What is written of a fraction, and the zeros that are not. -/
theorem stripped_append_zeros (cs : List Char) : ∃ count,
    cs = (cs.reverse.dropWhile (· == '0')).reverse ++ List.replicate count '0' := by
  have hzeros : ∀ c ∈ cs.rtakeWhile (· == '0'), c = '0' := by
    intro c hc
    have hzero := @List.mem_rtakeWhile_imp _ (· == '0') cs c hc
    exact beq_iff_eq.1 hzero
  refine ⟨(cs.rtakeWhile (· == '0')).length, ?_⟩
  rw [← List.eq_replicate_of_mem hzeros]
  exact List.rdropWhile_append_rtakeWhile.symm

/-- The digits of a fraction up to the ninth, in billionths. -/
theorem nanoseconds_eq {ds : List Char} (h : ds.length ≤ 9) :
    nanoseconds ds = Nat.ofDigitChars 10 (ds ++ List.replicate (9 - ds.length) '0') 0 := by
  have hfold : ∀ (ds : List Char) (n : Nat),
      ds.foldl (fun n c => n * 10 + (c.toNat - '0'.toNat)) n = Nat.ofDigitChars 10 ds n := by
    intro ds
    induction ds with
    | nil => exact fun n => rfl
    | cons d ds ih =>
      intro n
      rw [List.foldl_cons, ih, Nat.ofDigitChars_cons, Nat.mul_comm]
  rw [nanoseconds, List.take_of_length_le h, Nat.ofDigitChars_append,
    Nat.ofDigitChars_replicate_zero, hfold, Nat.mul_comm]

/-- A fraction is read without its trailing zeros. -/
theorem fraction?_fractionText {t : Timestamp} (hfraction : t.nanosecond ≠ 0) {c : Char}
    {rest : List Char} (hc : c.isDigit = false) :
    fraction? (t.fractionText ++ c :: rest) = some (t.nanosecond, c :: rest) := by
  -- what is kept of the nine digits, filled up with zeros again, writes the same number
  obtain ⟨count, hsplit⟩ := stripped_append_zeros (Date.padded 9 t.nanosecond)
  have hlength : (Date.padded 9 t.nanosecond).length = 9 :=
    Text.length_zeroPadded (by decide) (by decide) t.nanosecond_lt
  have hvalue : Nat.ofDigitChars 10 (Date.padded 9 t.nanosecond) 0 = t.nanosecond :=
    Text.ofDigitChars_zeroPadded 9 t.nanosecond
  have hdigits : ∀ d ∈ Date.padded 9 t.nanosecond, d.isDigit = true := Text.isDigit_zeroPadded
  rw [Timestamp.fractionText, if_neg hfraction]
  generalize ((Date.padded 9 t.nanosecond).reverse.dropWhile (· == '0')).reverse = kept at hsplit ⊢
  rw [hsplit] at hlength hvalue hdigits
  rw [List.length_append, List.length_replicate] at hlength
  have hcount : count = 9 - kept.length := by omega
  have hspan : (kept ++ c :: rest).span Char.isDigit = (kept, c :: rest) :=
    Text.span_append (fun d hd => hdigits d (List.mem_append_left _ hd)) hc
  have hkept : kept ≠ [] := by
    rintro rfl
    rw [List.nil_append, Nat.ofDigitChars_replicate_zero, Nat.mul_zero] at hvalue
    exact hfraction hvalue.symm
  rw [fraction?, List.cons_append, mark?_cons, Option.bind_eq_bind, Option.bind_some, hspan]
  dsimp only
  rw [if_neg (by simpa using hkept), nanoseconds_eq (by omega), ← hcount, hvalue]

/-! ### Offsets -/

/-- An offset of whole minutes below a day is read with its sign. -/
theorem offset?_offsetText {offset : Int} (hzero : offset ≠ 0) (hday : offset.natAbs < 86400)
    (hminute : 60 ∣ offset) : offset? 23 (Timestamp.offsetText offset) = some offset := by
  have hhours (rest : List Char) : pair? 23 (Date.padded 2 (offset.natAbs / 3600) ++ rest) =
      some (offset.natAbs / 3600, rest) :=
    pair?_padded (by omega) (by omega) rest
  have hminutes : pair? 59 (Date.padded 2 (offset.natAbs / 60 % 60)) =
      some (offset.natAbs / 60 % 60, []) := by
    have hread := @pair?_padded 59 (offset.natAbs / 60 % 60) (by omega) (by omega) []
    rwa [List.append_nil] at hread
  have hsum : offset.natAbs / 3600 * 3600 + offset.natAbs / 60 % 60 * 60 = offset.natAbs := by
    omega
  rw [Timestamp.offsetText, if_neg hzero, List.cons_append]
  by_cases hnegative : offset < 0
  · have habs : (-1 : Int) * offset.natAbs = offset := by omega
    simp only [if_pos hnegative, offset?, if_true, hhours, hminutes, mark?_cons,
      Option.bind_eq_bind, Option.bind_some, List.isEmpty_nil, hsum, habs]
  · have habs : (1 : Int) * offset.natAbs = offset := by omega
    have hsign : '+' ≠ '-' := by decide
    simp only [if_neg hnegative, offset?, if_neg hsign, if_true, hhours, hminutes, mark?_cons,
      Option.bind_eq_bind, Option.bind_some, List.isEmpty_nil, hsum, habs]

/-- What follows the fraction is a sign or the letter of UTC. -/
theorem offsetText_head (offset : Int) : ∃ c rest,
    Timestamp.offsetText offset = c :: rest ∧ c.isDigit = false ∧ c ≠ '.' := by
  rw [Timestamp.offsetText]
  split
  · exact ⟨'Z', [], rfl, by decide, by decide⟩
  · split
    · exact ⟨'-', _, rfl, by decide, by decide⟩
    · exact ⟨'+', _, rfl, by decide, by decide⟩

/-! ### RFC 3339 -/

/-- The year of a text of RFC 3339 has no sign. -/
theorem digits?_yearText {year : Int} (hlow : 0 ≤ year) (hhigh : year ≤ 9999)
    (rest : List Char) : digits? 4 (Date.yearText year ++ rest) = some (year.natAbs, rest) := by
  rw [Date.yearText, if_neg (by omega), List.nil_append]
  exact digits?_padded (by decide) (by omega) rest

/-- The letter of UTC and an offset are read as what they were written for. -/
theorem zone_offsetText {offset : Int} (hday : offset.natAbs < 86400) (hminute : 60 ∣ offset)
    (k : Int → Option Timestamp) :
    (match Timestamp.offsetText offset with
      | ['Z'] => k 0
      | ['z'] => k 0
      | cs => (offset? 23 cs).bind k) = k offset := by
  by_cases hzero : offset = 0
  · rw [hzero]
    rfl
  · have hread := offset?_offsetText hzero hday hminute
    rw [Timestamp.offsetText, if_neg hzero] at hread ⊢
    -- a sign is none of the letters of UTC
    split
    · rename_i heq
      by_cases hnegative : offset < 0 <;> simp [hnegative] at heq
    · rename_i heq
      by_cases hnegative : offset < 0 <;> simp [hnegative] at heq
    · rw [hread, Option.bind_some]

/-- **RFC 3339.** A point in time is read from its text. -/
theorem internetForm?_chars {t : Timestamp} (htext : t.HasText) (hminute : 60 ∣ t.offset) :
    internetForm? (t.date.chars ++ 'T' :: t.clockText ++ ':' :: Date.padded 2 (t.second % 60) ++
      t.fractionText ++ Timestamp.offsetText t.offset) = some t := by
  obtain ⟨hyear, hoffset⟩ := htext
  obtain ⟨⟨hlow, hhigh⟩, -⟩ := t.date.isDate
  have hfour := digits?_yearText hyear hhigh
  have hcast : (t.date.year.natAbs : Int) = t.date.year := by omega
  have hseconds (rest : List Char) :
      seconds? 60 (':' :: (Date.padded 2 (t.second % 60) ++ rest)) = some (t.second % 60, rest) :=
    seconds?_padded (by omega) (by omega) rest
  have hsecond : t.second / 60 * 60 + t.second % 60 = t.second := by omega
  -- no text is written with a leap second
  have hleap : ¬t.second % 60 = 60 := by omega
  have hletter : ¬128 ≤ 'T'.toNat := by decide
  have hzone := zone_offsetText hoffset hminute
  have hparts : Timestamp.ofParts? t.date t.second t.nanosecond t.offset = some t :=
    dif_pos ⟨t.second_lt, t.nanosecond_lt⟩
  simp only [internetForm?, Date.chars, List.append_assoc, List.cons_append, hfour, hcast,
    monthDay?_chars, List.head?_cons, List.drop_one, List.tail_cons, Option.map_some,
    if_neg hletter, hourMinute?_clockText, hseconds, Option.bind_eq_bind, Option.bind_some]
  -- a fraction is read where a point stands, so what follows without one is not a point
  by_cases hfraction : t.nanosecond = 0
  · have hempty : t.fractionText = [] := if_pos hfraction
    obtain ⟨c, rest, hlast, -, hpoint⟩ := offsetText_head t.offset
    have hhead : ¬(Timestamp.offsetText t.offset).head? = some '.' := by
      rw [hlast, List.head?_cons]
      simpa using hpoint
    rw [hempty, List.nil_append, if_neg hhead]
    refine (hzone fun offset => if t.second % 60 = 60 then _ else _).trans ?_
    rw [if_neg hleap, hsecond, ← hfraction, hparts]
  · obtain ⟨c, rest, hlast, hdigit, -⟩ := offsetText_head t.offset
    have hhead : (t.fractionText ++ Timestamp.offsetText t.offset).head? = some '.' := by
      rw [Timestamp.fractionText, if_neg hfraction, List.cons_append, List.head?_cons]
    have hread : fraction? (t.fractionText ++ Timestamp.offsetText t.offset) =
        some (t.nanosecond, Timestamp.offsetText t.offset) := by
      rw [hlast, fraction?_fractionText hfraction hdigit]
    rw [if_pos hhead, hread, Option.bind_some]
    refine (hzone fun offset => if t.second % 60 = 60 then _ else _).trans ?_
    rw [if_neg hleap, hsecond, hparts]

/-! ### Offsets that are read -/

/-- The points in time that may be read have offsets of whole minutes. -/
def WholeMinutes (t? : Option Timestamp) : Prop :=
  ∀ t ∈ t?, 60 ∣ t.offset

theorem wholeMinutes_none : WholeMinutes none :=
  fun _ ht => nomatch ht

/-- What follows something that was read has an offset of whole minutes, if it does for whatever was
read. -/
theorem WholeMinutes.bind {α : Type} {o : Option α} {k : α → Option Timestamp}
    (h : ∀ a ∈ o, WholeMinutes (k a)) : WholeMinutes (o >>= k) := by
  intro t ht
  obtain ⟨a, ha, hk⟩ := Option.bind_eq_some_iff.1 ht
  exact h a ha t hk

/-- Of two ways to read a point in time, one after the other, each has to see to its offset. -/
theorem WholeMinutes.orElse {o : Option Timestamp} {rest : Unit → Option Timestamp}
    (ho : WholeMinutes o) (hrest : WholeMinutes (rest ())) : WholeMinutes (o.orElse rest) := by
  cases o with
  | none => exact hrest
  | some t => exact ho

/-- A point in time that is made of its parts has the offset that it was given. -/
theorem wholeMinutes_ofParts? {offset : Int} (h : 60 ∣ offset) (date : Date)
    (second nanosecond : Nat) :
    WholeMinutes (Timestamp.ofParts? date second nanosecond offset) := by
  intro t ht
  unfold Timestamp.ofParts? at ht
  split at ht
  · cases ht
    exact h
  · exact nomatch ht

/-- A leap second is made of two points in time, both of which have the offset that it was given. -/
theorem wholeMinutes_leapSecond? {offset : Int} (h : 60 ∣ offset) (date : Date) (second : Nat) :
    WholeMinutes (leapSecond? date second offset) := by
  refine WholeMinutes.bind fun t ht => WholeMinutes.bind fun u hu => ?_
  have hoffset := wholeMinutes_ofParts? h date second (10 ^ 9 - 1) t ht
  split
  · intro t' ht'
    cases ht'
    exact hoffset
  · exact wholeMinutes_none

/-- Hours and minutes are a number of minutes, whatever their sign. -/
theorem dvd_of_hoursAndMinutes {maxHour : Nat} {cs : List Char} {factor offset : Int}
    (h : (do
      let (hour, cs) ← pair? maxHour cs
      let (minute, cs) ← pair? 59 (← mark? ':' cs)
      if cs.isEmpty then some (factor * (hour * 3600 + minute * 60 : Nat)) else none) =
        some offset) : 60 ∣ offset := by
  obtain ⟨⟨hour, cs⟩, -, h⟩ := Option.bind_eq_some_iff.1 h
  obtain ⟨cs, -, h⟩ := Option.bind_eq_some_iff.1 h
  obtain ⟨⟨minute, cs⟩, -, h⟩ := Option.bind_eq_some_iff.1 h
  dsimp only at h
  split at h
  · have hminutes : 60 ∣ ((hour * 3600 + minute * 60 : Nat) : Int) := by omega
    rw [← Option.some.inj h]
    exact Int.dvd_trans hminutes (Int.dvd_mul_left factor _)
  · cases h

/-- An offset is written in hours and minutes. -/
theorem dvd_of_offset? {maxHour : Nat} {cs : List Char} {offset : Int}
    (h : offset? maxHour cs = some offset) : 60 ∣ offset := by
  cases cs with
  | nil => cases h
  | cons sign cs =>
    rw [offset?] at h
    split at h
    · exact dvd_of_hoursAndMinutes h
    · split at h
      · exact dvd_of_hoursAndMinutes h
      · cases h

/-- A point in time as in RFC 3339 has an offset of whole minutes, with or without a fraction of a
second. -/
theorem wholeMinutes_internetForm? (cs : List Char) : WholeMinutes (internetForm? cs) := by
  refine .bind fun ⟨year, cs⟩ _ => .bind fun ⟨date, cs⟩ _ => .bind fun ⟨between, cs⟩ _ => ?_
  dsimp only
  split
  · exact wholeMinutes_none
  · refine .bind fun ⟨minutes, cs⟩ _ => .bind fun ⟨second, cs⟩ _ => ?_
    have hlast : ∀ {offset : Int}, 60 ∣ offset → ∀ nanosecond : Nat,
        WholeMinutes (if second = 60 then leapSecond? date (minutes + 59) offset
          else Timestamp.ofParts? date (minutes + second) nanosecond offset) := by
      intro offset hoffset nanosecond
      split
      · exact wholeMinutes_leapSecond? hoffset date _
      · exact wholeMinutes_ofParts? hoffset date _ _
    dsimp only
    -- with and without a fraction
    split
    all_goals
      refine .bind fun ⟨nanosecond, cs⟩ _ => ?_
      dsimp only
      split
      · exact hlast (Int.dvd_zero 60) nanosecond
      · exact hlast (Int.dvd_zero 60) nanosecond
      · exact .bind fun offset hoffset => hlast (dvd_of_offset? hoffset) nanosecond

/-- A time with an offset, the seconds being optional, has one of whole minutes. -/
theorem wholeMinutes_offsetForm? (cs : List Char) : WholeMinutes (offsetForm? cs) := by
  refine .bind fun ⟨date, minutes, cs⟩ _ => ?_
  dsimp only
  split
  all_goals
    exact .bind fun ⟨second, cs⟩ _ => .bind fun offset hoffset =>
      wholeMinutes_ofParts? (dvd_of_offset? hoffset) date _ _

/-- A time without an offset is in UTC. -/
theorem wholeMinutes_plainForm? (separator : Char) (cs : List Char) :
    WholeMinutes (plainForm? separator cs) := by
  refine .bind fun ⟨date, minutes, cs⟩ _ => .bind fun ⟨⟨second, nanosecond⟩, cs⟩ _ => ?_
  dsimp only
  split
  · exact wholeMinutes_ofParts? (Int.dvd_zero 60) _ _ _
  · exact wholeMinutes_none

end Time

/-! ### Whole texts -/

namespace Date

/-- No white space stands in a number that is filled up with zeros. -/
theorem isBlank_padded {width n : Nat} : ∀ c ∈ padded width n, Text.isBlank c = false :=
  fun c hc => Text.isBlank_of_isDigit (Text.isDigit_zeroPadded c hc)

/-- No white space stands in a date. -/
theorem isBlank_chars (d : Date) : ∀ c ∈ d.chars, Text.isBlank c = false := by
  have hpart {n : Nat} : ∀ c ∈ '-' :: padded 2 n, Text.isBlank c = false :=
    List.forall_mem_cons.2 ⟨by decide, isBlank_padded⟩
  have hsign : ∀ c ∈ if d.year < 0 then ['-'] else [], Text.isBlank c = false := by
    split
    · exact List.forall_mem_cons.2 ⟨by decide, nofun⟩
    · exact nofun
  rw [chars, yearText, List.forall_mem_append, List.forall_mem_append, List.forall_mem_append]
  exact ⟨⟨⟨hsign, isBlank_padded⟩, hpart⟩, hpart⟩

/-- **Dates.** A date is read from its text. -/
theorem ofText?_toText (d : Date) : ofText? d.toText = some d := by
  rw [ofText?, toText, String.toList_ofList, Text.trimChars_of_forall d.isBlank_chars,
    Time.bareDate?_chars]
  rfl

end Date

namespace Timestamp

/-- No white space stands in an hour and a minute. -/
theorem isBlank_clockText (t : Timestamp) : ∀ c ∈ t.clockText, Text.isBlank c = false := by
  rw [clockText, List.forall_mem_append, List.forall_mem_cons]
  exact ⟨Date.isBlank_padded, by decide, Date.isBlank_padded⟩

/-- No white space stands in a fraction of a second. -/
theorem isBlank_fractionText (t : Timestamp) : ∀ c ∈ t.fractionText, Text.isBlank c = false := by
  rw [fractionText]
  split
  · exact nofun
  · refine List.forall_mem_cons.2 ⟨by decide, fun c hc => ?_⟩
    have hkept := (List.dropWhile_suffix _).subset (List.mem_reverse.1 hc)
    exact Date.isBlank_padded c (List.mem_reverse.1 hkept)

/-- No white space stands in an offset. -/
theorem isBlank_offsetText (offset : Int) :
    ∀ c ∈ offsetText offset, Text.isBlank c = false := by
  rw [offsetText]
  split
  · exact List.forall_mem_cons.2 ⟨by decide, nofun⟩
  · rw [List.forall_mem_append, List.forall_mem_cons, List.forall_mem_cons]
    refine ⟨⟨?_, Date.isBlank_padded⟩, by decide, Date.isBlank_padded⟩
    split <;> decide

/-- No white space stands in a point in time. -/
theorem isBlank_toText (t : Timestamp) : ∀ c ∈ t.toText.toList, Text.isBlank c = false := by
  unfold toText
  split
  · rw [String.toList_ofList]
    simp only [List.forall_mem_append, List.forall_mem_cons]
    exact ⟨⟨⟨⟨t.date.isBlank_chars, by decide, t.isBlank_clockText⟩, by decide,
      Date.isBlank_padded⟩, t.isBlank_fractionText⟩, isBlank_offsetText t.offset⟩
  · exact nofun

/-- **Points in time.** A point in time is read from its text if it has one. -/
theorem ofText?_toText {t : Timestamp} (htext : t.HasText) (hminute : 60 ∣ t.offset) :
    ofText? t.toText = some t := by
  have hform := Time.internetForm?_chars htext hminute
  rw [ofText?, Text.trimChars_of_forall t.isBlank_toText, toText, if_pos ⟨htext, hminute⟩,
    String.toList_ofList, hform]
  rfl

/-- What is read from the text of a point in time is that point in time. -/
theorem eq_of_ofText?_toText {t t' : Timestamp} (h : ofText? t.toText = some t') : t' = t := by
  by_cases htext : t.HasText ∧ 60 ∣ t.offset
  · rw [ofText?_toText htext.1 htext.2] at h
    exact (Option.some.inj h).symm
  · -- nothing is read where there is no text
    have hempty : ofText? "" = none := by decide
    rw [toText, if_neg htext, hempty] at h
    exact nomatch h

/-- The text of a date is read as the midnight in UTC that it begins with. -/
theorem ofText?_date (d : Date) : ofText? d.toText = some (midnight d) := by
  refine ofText?_of_bareDate? ?_
  rw [Date.toText, String.toList_ofList, Text.trimChars_of_forall d.isBlank_chars,
    Time.bareDate?_chars]

/-- Every offset that is read is one of whole minutes. -/
theorem dvd_offset_of_ofText? {s : String} {t : Timestamp} (h : ofText? s = some t) :
    60 ∣ t.offset := by
  have hwhole : Time.WholeMinutes (ofText? s) := by
    refine .orElse (Time.wholeMinutes_internetForm? _) (.orElse (Time.wholeMinutes_offsetForm? _)
      (.orElse (Time.wholeMinutes_plainForm? 'T' _)
        (.orElse (Time.wholeMinutes_plainForm? ' ' _) ?_)))
    intro t ht
    obtain ⟨d, -, rfl⟩ := Option.map_eq_some_iff.1 ht
    exact Int.dvd_zero 60
  exact hwhole t h

end Timestamp

/-- The date that is read from the text of a point in time is the one in its own offset. -/
theorem Date.eq_of_ofText?_toText {t : Timestamp} {d : Date} (h : Date.ofText? t.toText = some d) :
    d = t.date := by
  rw [ofText?_eq] at h
  obtain ⟨t', ht', rfl⟩ := Option.map_eq_some_iff.1 h
  rw [Timestamp.eq_of_ofText?_toText ht']

end RecordService
