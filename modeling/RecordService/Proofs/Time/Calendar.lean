import Mathlib.Tactic.IntervalCases
import Mathlib.Tactic.Ring
import RecordService.Time.Timestamp

namespace RecordService

/-!
# The days of the calendar

The date of a day number is found by divisions that are off by a day at the end of a cycle of years
and put right again. They are followed here along the place that a day has in those cycles.

* `Date.Place`: era, century, cycle and year of a day. `exists_number`: every day has a place.
* `Date.Place.ofDayNumber?_number`: the date that is found for the day at a place.
* `Date.dayNumber_of_ofDayNumber?`: the date that is found has the day number it is found for.
* `Date.isSome_ofDayNumber?_iff`: which day numbers have a date.
* `Timestamp.isSome_inUtc?_iff`: which points in time have a date in UTC.
* `Timestamp.compare_of_inUtc?`: the time in UTC is the same point in time.
-/

namespace Date

/-! ### Cycles -/

/-- A day by its place in the cycles of the calendar. Years begin in March. Four of them make a
cycle, 25 cycles a century and four centuries an era. -/
structure Place where
  era : Int
  century : Nat
  cycle : Nat
  year : Nat
  day : Nat
  century_le : century ≤ 3
  cycle_le : cycle ≤ 24
  year_le : year ≤ 3
  day_le : day ≤ 365
  /-- The last year of a cycle has one day more than others, but not in the cycle that ends a
  century, unless it ends the era. -/
  leap : day = 365 → year = 3 ∧ (cycle = 24 → century = 3)

namespace Place

/-- The day, counted from the first one of its era. -/
def dayOfEra (p : Place) : Nat :=
  36524 * p.century + 1461 * p.cycle + 365 * p.year + p.day

/-- The year, counted from the first one of its era. -/
def yearOfEra (p : Place) : Nat :=
  100 * p.century + 4 * p.cycle + p.year

/-- The day number. -/
def number (p : Place) : Int :=
  146097 * p.era + p.dayOfEra - 719468

/-- Every day has a place. -/
theorem exists_number (n : Int) : ∃ p : Place, p.number = n := by
  obtain ⟨d, hd⟩ : ∃ d : Nat, (d : Int) = (n + 719468) % 146097 :=
    ⟨((n + 719468) % 146097).toNat, by omega⟩
  -- the day that an era has beyond four centuries belongs to the last one, and that of a cycle
  -- beyond four years to the last year
  obtain ⟨c, hc⟩ : ∃ c, c = min (d / 36524) 3 := ⟨_, rfl⟩
  obtain ⟨k, hk⟩ : ∃ k, k = (d - 36524 * c) / 1461 := ⟨_, rfl⟩
  obtain ⟨y, hy⟩ : ∃ y, y = min ((d - 36524 * c - 1461 * k) / 365) 3 := ⟨_, rfl⟩
  refine ⟨⟨(n + 719468) / 146097, c, k, y, d - 36524 * c - 1461 * k - 365 * y,
    by omega, by omega, by omega, by omega, by omega⟩, ?_⟩
  simp only [number, dayOfEra]
  omega

variable (p : Place)

/-- An era has 146097 days. -/
theorem dayOfEra_lt : p.dayOfEra < 146097 := by
  obtain ⟨era, c, k, y, r, hc, hk, hy, hr, hleap⟩ := p
  simp only [dayOfEra]
  omega

/-- An era has 400 years. -/
theorem yearOfEra_lt : p.yearOfEra < 400 := by
  obtain ⟨era, c, k, y, r, hc, hk, hy, hr, hleap⟩ := p
  simp only [yearOfEra]
  omega

/-- The year is the day over 365, once the leap days before it have been taken off. -/
theorem yearOfEra_eq : ((p.dayOfEra : Int) - p.dayOfEra / 1460 + p.dayOfEra / 36524 -
      p.dayOfEra / 146096) / 365 = p.yearOfEra := by
  obtain ⟨era, c, k, y, r, hc, hk, hy, hr, hleap⟩ := p
  -- one day more than the leap days is taken off, but only at the end of a year
  obtain ⟨e, he⟩ : ∃ e, e = (24 * c + k + 365 * y + r) / 1460 := ⟨_, rfl⟩
  have hle : e ≤ 1 := by omega
  have hlow : e ≤ r := by omega
  have hhigh : r < 365 + e := by
    by_cases hday : r = 365
    · obtain ⟨rfl, -⟩ := hleap hday
      omega
    · omega
  have hyear : ((r : Int) - e) / 365 = 0 := Int.ediv_eq_zero_of_lt (by omega) (by omega)
  obtain ⟨d, hd⟩ : ∃ d, d = 36524 * c + 1461 * k + 365 * y + r := ⟨_, rfl⟩
  have hcycle : d / 1460 = 25 * c + k + e := by
    have hsum : d = 24 * c + k + 365 * y + r + 1460 * (25 * c + k) := by omega
    rw [hsum, Nat.add_mul_div_left _ _ (by decide), he, Nat.add_comm]
  have hcentury : d / 36524 = c + d / 146096 := by
    by_cases hlast : d = 146096
    · omega
    · have hzero : d / 146096 = 0 := by omega
      have hfrom : 36524 * c ≤ d := by omega
      have huntil : d < 36524 * (c + 1) := by omega
      omega
  have hyears : (d : Int) - d / 1460 + d / 36524 - d / 146096 =
      365 * (100 * c + 4 * k + y) + (r - e) := by
    rw [show (d : Int) / 1460 = 25 * c + k + e from mod_cast hcycle,
      show (d : Int) / 36524 = c + d / 146096 from mod_cast hcentury, hd]
    push_cast
    ring
  simp only [dayOfEra, yearOfEra]
  rw [← hd, hyears, Int.add_comm, Int.add_mul_ediv_left _ _ (by decide), hyear, Int.zero_add]
  push_cast
  rfl

/-- The day of the era is made up of whole years, their leap days and the day of the year. -/
theorem dayOfEra_eq : p.dayOfEra =
    365 * p.yearOfEra + p.yearOfEra / 4 - p.yearOfEra / 100 + p.day := by
  obtain ⟨era, c, k, y, r, hc, hk, hy, hr, hleap⟩ := p
  simp only [dayOfEra, yearOfEra]
  have hcycles : (100 * c + 4 * k + y) / 4 = 25 * c + k := by omega
  have hcenturies : (100 * c + 4 * k + y) / 100 = c := by omega
  omega

/-- The leap days of the eras before and of the years of the era. -/
theorem leapDays_eq : (p.yearOfEra + 400 * p.era) / 4 - (p.yearOfEra + 400 * p.era) / 100 +
      (p.yearOfEra + 400 * p.era) / 400 =
    97 * p.era + (p.yearOfEra / 4 : Nat) - (p.yearOfEra / 100 : Nat) := by
  have hlt := p.yearOfEra_lt
  omega

/-! ### Months -/

/-- Days of a year before a month, both beginning in March. -/
def daysBefore (m : Nat) : Nat :=
  (153 * m + 2) / 5

/-- The month, counted from March. -/
def monthIndex : Nat :=
  (5 * p.day + 2) / 153

/-- The month of the calendar. -/
def month : Nat :=
  (p.monthIndex + 2) % 12 + 1

/-- The day of the month. -/
def dayOfMonth : Nat :=
  p.day - daysBefore p.monthIndex + 1

/-- The year of the calendar, which begins in January. -/
def calendarYear : Int :=
  p.yearOfEra + p.era * 400 + if p.month ≤ 2 then 1 else 0

/-- A year has twelve months, counted from zero. -/
theorem monthIndex_le : p.monthIndex ≤ 11 := by
  have hday := p.day_le
  simp only [monthIndex]
  omega

/-- A day comes after the days before its month. -/
theorem daysBefore_le : daysBefore p.monthIndex ≤ p.day := by
  simp only [daysBefore, monthIndex]
  omega

/-- A day comes before the days after its month. -/
theorem lt_daysBefore : p.day < daysBefore (p.monthIndex + 1) := by
  simp only [daysBefore, monthIndex]
  omega

/-- January and February have the last days of the year. -/
theorem month_le_two_iff : p.month ≤ 2 ↔ 306 ≤ p.day := by
  have hle := p.monthIndex_le
  have hindex : p.monthIndex < 10 ↔ p.day < 306 := by
    simp only [monthIndex]
    omega
  rw [month]
  omega

/-- A month other than February, which ends the year, lasts until the next one. -/
theorem daysInMonth_eq (year : Int) {m : Nat} (h : m < 11) :
    daysInMonth year ((m + 2) % 12 + 1) = daysBefore (m + 1) - daysBefore m := by
  interval_cases m <;> rfl

/-- The 366th day of a year falls into a leap year of the calendar. -/
theorem isLeapYear_of_day (h : p.day = 365) :
    isLeapYear (p.yearOfEra + p.era * 400 + 1) = true := by
  obtain ⟨era, c, k, y, r, hc, hk, hy, hr, hleap⟩ := p
  obtain ⟨rfl, hlast⟩ := hleap h
  simp only [isLeapYear, yearOfEra, Bool.and_eq_true, Bool.or_eq_true, beq_iff_eq, bne_iff_ne]
  omega

/-- The day of the month is one that the month has. -/
theorem dayOfMonth_le : p.dayOfMonth ≤ daysInMonth p.calendarYear p.month := by
  have hday := p.day_le
  have hindex := p.monthIndex_le
  have hlow := p.daysBefore_le
  have hhigh := p.lt_daysBefore
  by_cases hmarch : p.monthIndex < 11
  · rw [month, daysInMonth_eq _ hmarch, dayOfMonth]
    omega
  · have hfebruary : p.monthIndex = 11 := by omega
    have hmonth : p.month = 2 := by rw [month, hfebruary]
    rw [calendarYear, hmonth, if_pos (by decide), dayOfMonth, hfebruary, daysInMonth, if_pos rfl]
    by_cases hleap : p.day = 365
    · rw [if_pos (p.isLeapYear_of_day hleap), hleap]
      decide
    · simp only [daysBefore]
      split <;> omega

/-! ### Dates -/

/-- The date that is found for the day at a place. -/
theorem ofDayNumber?_number :
    ofDayNumber? p.number = ofParts? p.calendarYear p.month p.dayOfMonth := by
  have hlt := p.dayOfEra_lt
  have hlow := p.daysBefore_le
  have hindex := p.monthIndex_le
  have hdays := p.dayOfEra_eq
  have hshift : p.number + 719468 = 146097 * p.era + p.dayOfEra := by rw [number]; omega
  have hera : (146097 * p.era + p.dayOfEra) / 146097 = p.era := by omega
  have hday : (146097 * p.era + p.dayOfEra) % 146097 = p.dayOfEra := by omega
  have hdayOfYear : (p.dayOfEra : Int) -
      (365 * p.yearOfEra + p.yearOfEra / 4 - p.yearOfEra / 100) = p.day := by
    omega
  have hmonthIndex : (5 * (p.day : Int) + 2) / 153 = p.monthIndex := rfl
  have hmonth : (if (p.monthIndex : Int) < 10 then (p.monthIndex : Int) + 3
      else p.monthIndex - 9) = (p.month : Nat) := by
    rw [month]
    split <;> omega
  have hdayOfMonth : (p.day : Int) - (153 * p.monthIndex + 2) / 5 + 1 = (p.dayOfMonth : Nat) := by
    simp only [dayOfMonth, daysBefore] at hlow ⊢
    omega
  have hjanuary : (p.month : Int) ≤ 2 ↔ p.month ≤ 2 := by omega
  simp only [ofDayNumber?, hshift, hera, hday, p.yearOfEra_eq, hdayOfYear, hmonthIndex, hmonth,
    hdayOfMonth, hjanuary, Int.toNat_natCast]
  rfl

/-- The date at a place has the number of the place. -/
theorem dayNumber_eq {d : Date} (hyear : d.year = p.calendarYear) (hmonth : d.month = p.month)
    (hday : d.day = p.dayOfMonth) : d.dayNumber = p.number := by
  have hlow := p.daysBefore_le
  have hindex := p.monthIndex_le
  have hdays := p.dayOfEra_eq
  have hleap := p.leapDays_eq
  have hmarch : (if p.month ≤ 2 then p.calendarYear - 1 else p.calendarYear) =
      p.yearOfEra + 400 * p.era := by
    rw [calendarYear]
    split <;> omega
  have hmonthIndex : ((p.month : Int) + 9) % 12 = p.monthIndex := by rw [month]; omega
  simp only [dayNumber, hyear, hmonth, hday, hmarch, hmonthIndex, number]
  simp only [dayOfMonth, daysBefore] at hlow ⊢
  omega

/-- The parts of a day name a date if their year is in range. -/
theorem isDate_iff : IsDate p.calendarYear p.month p.dayOfMonth ↔
    -9999 ≤ p.calendarYear ∧ p.calendarYear ≤ 9999 := by
  have hmonth : 1 ≤ p.month ∧ p.month ≤ 12 := by rw [month]; omega
  have hday : 1 ≤ p.dayOfMonth := Nat.le_add_left 1 _
  exact ⟨fun h => h.1, fun h => ⟨h, hmonth, hday, p.dayOfMonth_le⟩⟩

/-- The days of the years in range. -/
theorem calendarYear_iff : (-9999 ≤ p.calendarYear ∧ p.calendarYear ≤ 9999) ↔
    -4371587 ≤ p.number ∧ p.number ≤ 2932896 := by
  have hmonth := p.month_le_two_iff
  obtain ⟨era, c, k, y, r, hc, hk, hy, hr, hleap⟩ := p
  simp only [calendarYear, hmonth, yearOfEra, number, dayOfEra]
  split
  · omega
  · omega

end Place

/-- The first date of the calendar. -/
def first : Date := ⟨-9999, 1, 1, by decide⟩

/-- The last date of the calendar. -/
def last : Date := ⟨9999, 12, 31, by decide⟩

/-- The date that is found for a day number has that number. -/
theorem dayNumber_of_ofDayNumber? {n : Int} {d : Date} (h : ofDayNumber? n = some d) :
    d.dayNumber = n := by
  obtain ⟨p, rfl⟩ := Place.exists_number n
  rw [p.ofDayNumber?_number, ofParts?] at h
  split at h
  · cases h
    exact p.dayNumber_eq rfl rfl rfl
  · cases h

/-- **Days with a date.** A day number has a date from the first date of the calendar to the
last. -/
theorem isSome_ofDayNumber?_iff {n : Int} :
    (ofDayNumber? n).isSome = true ↔ first.dayNumber ≤ n ∧ n ≤ last.dayNumber := by
  obtain ⟨p, rfl⟩ := Place.exists_number n
  have hfirst : first.dayNumber = -4371587 := by decide
  have hlast : last.dayNumber = 2932896 := by decide
  rw [hfirst, hlast, ← p.calendarYear_iff, ← p.isDate_iff, p.ofDayNumber?_number, ofParts?]
  split <;> simp [*]

end Date

namespace Timestamp

/-- The first second of the calendar in UTC. -/
def first : Timestamp := midnight Date.first

/-- The last second of the calendar in UTC. -/
def last : Timestamp :=
  { midnight Date.last with
    second := secondsPerDay - 1
    second_lt := by decide }

/-- Whether the date of a point in time is in the calendar, when it is told in UTC. -/
def InCalendar (t : Timestamp) : Prop :=
  first.instant ≤ t.instant ∧ t.instant ≤ last.instant

instance (t : Timestamp) : Decidable t.InCalendar :=
  inferInstanceAs (Decidable (_ ∧ _))

variable {t u : Timestamp}

/-- **Times in UTC.** A point in time has a date in UTC if it is in the calendar. -/
theorem isSome_inUtc?_iff : t.inUtc?.isSome = true ↔ t.InCalendar := by
  have hfirst : first.instant = first.date.dayNumber * secondsPerDay := by decide
  have hlast : last.instant = last.date.dayNumber * secondsPerDay + (secondsPerDay - 1) := by
    decide
  rw [inUtc?, Option.isSome_map, Date.isSome_ofDayNumber?_iff, InCalendar, hfirst, hlast]
  simp only [first, last, midnight, secondsPerDay]
  omega

/-- The time in UTC is the same point in time. -/
theorem compare_of_inUtc? (h : t.inUtc? = some u) : u.offset = 0 ∧ u.compare t = .eq := by
  obtain ⟨d, hd, hu⟩ := Option.map_eq_some_iff.1 h
  have hdate : u.date = d := by rw [← hu]
  have hsecond : (u.second : Int) = t.instant % secondsPerDay := by
    rw [← hu]
    simp only [secondsPerDay]
    omega
  have hoffset : u.offset = 0 := by rw [← hu]
  have hinstant : u.instant = t.instant := by
    rw [instant, hdate, hsecond, hoffset, Date.dayNumber_of_ofDayNumber? hd, Int.sub_zero]
    exact Int.ediv_mul_add_emod _ _
  have hnanosecond : u.nanosecond = t.nanosecond := by rw [← hu]
  rw [compare, hinstant, hnanosecond]
  simp [hoffset]

end Timestamp

end RecordService
