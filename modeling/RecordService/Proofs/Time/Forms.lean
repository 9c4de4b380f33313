import RecordService.Time.Reader

namespace RecordService

/-!
# Dates and points in time are read alike

A text may be tried as a bare date first or last: the other forms all go on behind the date, so
none of them fits a text that ends there. That makes a date the date of the point in time that the
same text is read as.

* `Time.internetForm?_of_date?`, `Time.dateMinute?_of_date?`: a text that ends with its date.
* `Timestamp.ofText?_of_bareDate?`: a bare date is midnight in UTC.
* `Date.ofText?_eq`: the date of a text is that of its point in time.
* `Date.read_iff_timestamp`: both are read from the same texts, and agree.
-/

namespace Time

variable {cs rest : List Char} {d : Date}

/-! ### Bare dates -/

/-- A bare date is a date at the start that nothing follows. -/
theorem date?_of_bareDate? (h : bareDate? cs = some d) : date? cs = some (d, []) := by
  obtain ⟨⟨d', rest⟩, hdate, hend⟩ := Option.bind_eq_some_iff.1 h
  dsimp only at hend
  split at hend
  · rename_i hempty
    rw [hdate, List.isEmpty_iff.1 hempty, Option.some.inj hend]
  · exact nomatch hend

/-- Four digits are a year without a sign. -/
theorem signedYear?_of_digits? {n : Nat} (h : digits? 4 cs = some (n, rest)) :
    signedYear? cs = some ((n : Int), rest) := by
  unfold signedYear?
  split
  -- a sign is none of the digits
  · exact nomatch h
  · exact nomatch h
  · rw [h]
    rfl

/-- RFC 3339 has a time behind the date. -/
theorem internetForm?_of_date? (h : date? cs = some (d, [])) : internetForm? cs = none := by
  cases hdigits : digits? 4 cs with
  | none =>
    rw [internetForm?, hdigits]
    rfl
  | some year =>
    obtain ⟨n, rest⟩ := year
    -- the year being the same, so are month and day, and nothing is left to stand between
    have hday : monthDay? n rest = some (d, []) := by
      rw [date?, signedYear?_of_digits? hdigits] at h
      exact h
    simp only [internetForm?, hdigits, hday, List.head?_nil, Option.map_none, Option.bind_eq_bind,
      Option.bind_some, Option.bind_none]

/-- A separator has to follow where an hour and a minute are read. -/
theorem dateMinute?_of_date? (h : date? cs = some (d, [])) (separator : Char) :
    dateMinute? separator cs = none := by
  rw [dateMinute?, h]
  rfl

end Time

/-! ### Whole texts -/

/-- A bare date is read as the midnight in UTC that it begins with. -/
theorem Timestamp.ofText?_of_bareDate? {s : String} {d : Date}
    (h : Time.bareDate? (Text.trimChars s.toList) = some d) : ofText? s = some (midnight d) := by
  have hdate := Time.date?_of_bareDate? h
  rw [ofText?, Time.internetForm?_of_date? hdate, Time.offsetForm?, Time.plainForm?,
    Time.plainForm?, Time.dateMinute?_of_date? hdate, Time.dateMinute?_of_date? hdate, h]
  rfl

/-- The date of a text is that of its point in time. -/
theorem Date.ofText?_eq (s : String) : ofText? s = (Timestamp.ofText? s).map (·.date) := by
  rw [ofText?]
  cases hbare : Time.bareDate? (Text.trimChars s.toList) with
  | none => rfl
  | some d =>
    rw [Timestamp.ofText?_of_bareDate? hbare]
    rfl

/-! ### Answers -/

/-- A point in time is read exactly if the text has one of its forms. -/
theorem Timestamp.read_eq_ok {s : String} {t : Timestamp} :
    Timestamp.read s = .ok t ↔ ofText? s = some t := by
  rw [Timestamp.read]
  cases ofText? s with
  | none => exact ⟨nofun, nofun⟩
  | some t' => simp

/-- Where there is no date in a text, there is no point in time to take it from. -/
theorem Date.read_eq_ok {s : String} {d : Date} : Date.read s = .ok d ↔ ofText? s = some d := by
  rw [Date.read]
  cases hdate : ofText? s with
  | some d' => simp
  | none =>
    have htime : Timestamp.ofText? s = none := Option.map_eq_none_iff.1 (ofText?_eq s ▸ hdate)
    rw [Timestamp.read, htime]
    exact ⟨nofun, nofun⟩

/-- **Agreement.** A date is read from a text if and only if a point in time is, and it is the date
of that point in its own offset. From a text without a time of day this is midnight in UTC. -/
theorem Date.read_iff_timestamp (s : String) :
    (∀ d, Date.read s = .ok d ↔ ∃ t, Timestamp.read s = .ok t ∧ t.date = d) ∧
      (isDateOnly s = true →
        ∃ d, Date.read s = .ok d ∧ Timestamp.read s = .ok (Timestamp.midnight d)) := by
  constructor
  · intro d
    simp only [read_eq_ok, Timestamp.read_eq_ok]
    rw [ofText?_eq, Option.map_eq_some_iff]
  · intro h
    obtain ⟨d, hbare⟩ := Option.isSome_iff_exists.1 h
    have htime := Timestamp.ofText?_of_bareDate? hbare
    refine ⟨d, read_eq_ok.2 ?_, Timestamp.read_eq_ok.2 htime⟩
    rw [ofText?_eq, htime]
    rfl

/-- A year before the first has a sign, and no form of RFC 3339. -/
theorem Date.read_iff_timestamp_ides :
    isDateOnly " -0043-03-15" = true ∧
      ∃ d, Date.read " -0043-03-15" = .ok d ∧
        Timestamp.read " -0043-03-15" = .ok (Timestamp.midnight d) := by
  have hbare : isDateOnly " -0043-03-15" = true := by decide +kernel
  exact ⟨hbare, (Date.read_iff_timestamp _).2 hbare⟩

end RecordService
