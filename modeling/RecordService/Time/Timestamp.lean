import RecordService.Time.Date

namespace RecordService

/-!
# Points in time

A timestamp is a local date and time of day together with its offset from UTC.

* `Timestamp.instant`: seconds since 1970-01-01 in UTC; the order of timestamps is that of
  their instants.
* `Timestamp.inUtc?`: the same instant in UTC, if the calendar still has its date.
* `Timestamp.toText`: the text of RFC 3339, in the timestamp's own offset.
-/

/-- Seconds of a day. -/
def secondsPerDay : Nat := 86400

/-- A local date and time with an offset. -/
structure Timestamp where
  date : Date
  /-- Seconds since midnight. -/
  second : Nat
  nanosecond : Nat
  /-- Seconds by which local time is ahead of UTC. -/
  offset : Int
  second_lt : second < secondsPerDay
  nanosecond_lt : nanosecond < 10 ^ 9
  deriving DecidableEq, Repr

namespace Timestamp

/-- The timestamp with the given parts, if they are in range. -/
def ofParts? (date : Date) (second nanosecond : Nat) (offset : Int) : Option Timestamp :=
  if h : second < secondsPerDay ∧ nanosecond < 10 ^ 9 then
    some ⟨date, second, nanosecond, offset, h.1, h.2⟩
  else none

/-- The start of a date in UTC. -/
def midnight (date : Date) : Timestamp :=
  ⟨date, 0, 0, 0, by decide, by decide⟩

/-- Seconds since 1970-01-01 in UTC, without the fraction of a second. -/
def instant (t : Timestamp) : Int :=
  t.date.dayNumber * secondsPerDay + t.second - t.offset

/-- The order in time. -/
def compare (a b : Timestamp) : Ordering :=
  (Ord.compare a.instant b.instant).then (Ord.compare a.nanosecond b.nanosecond)

/-- The same instant. -/
def sameInstant (a b : Timestamp) : Bool :=
  a.compare b == .eq

/-- Nanoseconds since 1970-01-01 in UTC. -/
def nanoseconds (t : Timestamp) : Int :=
  t.instant * 10 ^ 9 + t.nanosecond

/-- The same instant in UTC. There is none when its date has left the calendar. -/
def inUtc? (t : Timestamp) : Option Timestamp :=
  (Date.ofDayNumber? (t.instant / secondsPerDay)).map fun date =>
    { date
      second := (t.instant % secondsPerDay).toNat
      nanosecond := t.nanosecond
      offset := 0
      second_lt := by simp only [secondsPerDay]; omega
      nanosecond_lt := t.nanosecond_lt }

/-! ### Text -/

/-- Hour and minute of the day. -/
def clockText (t : Timestamp) : List Char :=
  Date.padded 2 (t.second / 3600) ++ ':' :: Date.padded 2 (t.second / 60 % 60)

/-- The fraction of a second without trailing zeros, nothing when it is zero. -/
def fractionText (t : Timestamp) : List Char :=
  if t.nanosecond = 0 then []
  else '.' :: ((Date.padded 9 t.nanosecond).reverse.dropWhile (· == '0')).reverse

/-- An offset as sign, hours and minutes, `Z` for UTC. -/
def offsetText (offset : Int) : List Char :=
  if offset = 0 then ['Z']
  else
    (if offset < 0 then '-' else '+') ::
      Date.padded 2 (offset.natAbs / 3600) ++ ':' :: Date.padded 2 (offset.natAbs / 60 % 60)

/-- Whether the year and the offset are in the range of RFC 3339: a year without a sign, and an
offset of less than a day. -/
def HasText (t : Timestamp) : Prop :=
  0 ≤ t.date.year ∧ t.offset.natAbs < secondsPerDay

instance (t : Timestamp) : Decidable t.HasText :=
  inferInstanceAs (Decidable (_ ∧ _))

/-- The text of RFC 3339, empty when there is none. An offset is written in hours and minutes, so
one with seconds has no text. -/
def toText (t : Timestamp) : String :=
  if t.HasText ∧ 60 ∣ t.offset then
    String.ofList <|
      t.date.chars ++ 'T' :: t.clockText ++ ':' :: Date.padded 2 (t.second % 60) ++
        t.fractionText ++ offsetText t.offset
  else ""

/-- Date, hour and minute in UTC, for people to read. -/
def displayText? (t : Timestamp) : Option String :=
  t.inUtc?.map fun u => String.ofList (u.date.chars ++ ' ' :: u.clockText)

end Timestamp

end RecordService
