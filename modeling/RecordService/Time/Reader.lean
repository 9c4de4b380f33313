import RecordService.Failure
import RecordService.Text.Blank
import RecordService.Text.Cut
import RecordService.Time.Timestamp

namespace RecordService

/-!
# Reading dates and times

A point in time is read from the first of these forms that fits, white space around it aside:
RFC 3339; a date and a time with an offset; a date and a time without an offset, which is then in
UTC; a bare date, which is midnight in UTC.

* `Date.ofText?`: a bare date, or the date of a point in time in its own offset.
* `Timestamp.ofText?`: a point in time.
* `Date.read`, `Timestamp.read`: the same with the failure that is reported.
* `isDateOnly`: whether a text is a bare date.
-/

namespace Time

/-! ### Parts -/

/-- Exactly `n` digits and what follows them. -/
def digits? : Nat → List Char → Option (Nat × List Char)
  | 0, cs => some (0, cs)
  | n + 1, c :: cs =>
    if c.isDigit then
      (digits? n cs).map fun (m, rest) => ((c.toNat - '0'.toNat) * 10 ^ n + m, rest)
    else none
  | _ + 1, [] => none

/-- A given character. -/
def mark? (mark : Char) : List Char → Option (List Char)
  | c :: cs => if c = mark then some cs else none
  | [] => none

/-- Two digits up to `max`. -/
def pair? (max : Nat) (cs : List Char) : Option (Nat × List Char) :=
  (digits? 2 cs).filter (·.1 ≤ max)

/-- A year of four digits with an optional sign. -/
def signedYear? : List Char → Option (Int × List Char)
  | '-' :: cs => (digits? 4 cs).map fun (n, rest) => (-(n : Int), rest)
  | '+' :: cs => (digits? 4 cs).map fun (n, rest) => ((n : Int), rest)
  | cs => (digits? 4 cs).map fun (n, rest) => ((n : Int), rest)

/-- Month and day of a year, each behind a hyphen. -/
def monthDay? (year : Int) (cs : List Char) : Option (Date × List Char) := do
  let cs ← mark? '-' cs
  let (month, cs) ← digits? 2 cs
  let cs ← mark? '-' cs
  let (day, cs) ← digits? 2 cs
  return (← Date.ofParts? year month day, cs)

/-- A date at the start of a text. -/
def date? (cs : List Char) : Option (Date × List Char) := do
  let (year, cs) ← signedYear? cs
  monthDay? year cs

/-- Hour and minute, as seconds since midnight. -/
def hourMinute? (cs : List Char) : Option (Nat × List Char) := do
  let (hour, cs) ← pair? 23 cs
  let cs ← mark? ':' cs
  let (minute, cs) ← pair? 59 cs
  return (hour * 3600 + minute * 60, cs)

/-- A colon and a number of seconds up to `max`. -/
def seconds? (max : Nat) (cs : List Char) : Option (Nat × List Char) := do
  pair? max (← mark? ':' cs)

/-- The nanoseconds written by the digits behind a point. Digits after the ninth do not count. -/
def nanoseconds (ds : List Char) : Nat :=
  let kept := (ds.take 9).foldl (fun n c => n * 10 + (c.toNat - '0'.toNat)) 0
  kept * 10 ^ (9 - ds.length)

/-- A point and at least one digit. -/
def fraction? (cs : List Char) : Option (Nat × List Char) := do
  let (ds, rest) := (← mark? '.' cs).span Char.isDigit
  if ds.isEmpty then none else some (nanoseconds ds, rest)

/-- A signed offset of hours and minutes, to the end of the text. -/
def offset? (maxHour : Nat) : List Char → Option Int
  | sign :: cs => do
    let factor ← if sign = '-' then some (-1 : Int) else if sign = '+' then some 1 else none
    let (hour, cs) ← pair? maxHour cs
    let (minute, cs) ← pair? 59 (← mark? ':' cs)
    if cs.isEmpty then some (factor * (hour * 3600 + minute * 60 : Nat)) else none
  | [] => none

/-! ### Forms -/

/-- A leap second is read as the last nanosecond before it. It has to be the end of a month in
UTC. -/
def leapSecond? (date : Date) (second : Nat) (offset : Int) : Option Timestamp := do
  let t ← Timestamp.ofParts? date second (10 ^ 9 - 1) offset
  let u ← t.inUtc?
  if u.second + 1 = secondsPerDay ∧ u.date.day = daysInMonth u.date.year u.date.month then some t
  else none

/-- RFC 3339. Any ASCII character may stand between date and time. -/
def internetForm? (cs : List Char) : Option Timestamp := do
  let (year, cs) ← digits? 4 cs
  let (date, cs) ← monthDay? year cs
  let (between, cs) ← cs.head?.map (·, cs.drop 1)
  if 128 ≤ between.toNat then none
  let (minutes, cs) ← hourMinute? cs
  let (second, cs) ← seconds? 60 cs
  let (nanosecond, cs) ← if cs.head? = some '.' then fraction? cs else some (0, cs)
  let offset ←
    match cs with
    | ['Z'] => some 0
    | ['z'] => some 0
    | cs => offset? 23 cs
  if second = 60 then leapSecond? date (minutes + 59) offset
  else Timestamp.ofParts? date (minutes + second) nanosecond offset

/-- A date, a separator, hour and minute. -/
def dateMinute? (separator : Char) (cs : List Char) : Option (Date × Nat × List Char) := do
  let (date, cs) ← date? cs
  let (minutes, cs) ← hourMinute? (← mark? separator cs)
  return (date, minutes, cs)

/-- A date and a time with an offset, the seconds being optional. -/
def offsetForm? (cs : List Char) : Option Timestamp := do
  let (date, minutes, cs) ← dateMinute? 'T' cs
  let (second, cs) ← if cs.head? = some ':' then seconds? 59 cs else some (0, cs)
  Timestamp.ofParts? date (minutes + second) 0 (← offset? 25 cs)

/-- Optional seconds with an optional fraction. -/
def fineSeconds? (cs : List Char) : Option ((Nat × Nat) × List Char) := do
  if cs.head? = some ':' then
    let (second, cs) ← seconds? 59 cs
    let (nanosecond, cs) ← if cs.head? = some '.' then fraction? cs else some (0, cs)
    return ((second, nanosecond), cs)
  else return ((0, 0), cs)

/-- A date and a time in UTC, the seconds and their fraction being optional. -/
def plainForm? (separator : Char) (cs : List Char) : Option Timestamp := do
  let (date, minutes, cs) ← dateMinute? separator cs
  let ((second, nanosecond), cs) ← fineSeconds? cs
  if cs.isEmpty then Timestamp.ofParts? date (minutes + second) nanosecond 0 else none

/-- A bare date. -/
def bareDate? (cs : List Char) : Option Date := do
  let (date, cs) ← date? cs
  if cs.isEmpty then some date else none

end Time

/-! ### Texts -/

/-- A point in time that takes the whole text, white space around it aside. -/
def Timestamp.ofText? (s : String) : Option Timestamp :=
  let cs := Text.trimChars s.toList
  Time.internetForm? cs <|> Time.offsetForm? cs <|> Time.plainForm? 'T' cs <|>
    Time.plainForm? ' ' cs <|> (Time.bareDate? cs).map Timestamp.midnight

/-- A bare date, or the date of a point in time in its own offset. -/
def Date.ofText? (s : String) : Option Date :=
  Time.bareDate? (Text.trimChars s.toList) <|> (Timestamp.ofText? s).map (·.date)

/-- Whether a text is a date without a time of day. -/
def isDateOnly (s : String) : Bool :=
  (Time.bareDate? (Text.trimChars s.toList)).isSome

/-- Read a point in time or say that there is none. -/
def Timestamp.read (s : String) : Answer Timestamp :=
  match ofText? s with
  | some t => .ok t
  | none =>
    .error <| .error
      [.note ("Cannot parse `" ++ Text.cutLong (Text.trim s) ++ "` as a date-time")] .unworded

/-- Read a date or say that there is none. -/
def Date.read (s : String) : Answer Date :=
  match ofText? s with
  | some d => .ok d
  | none =>
    inContext ("Cannot parse `" ++ Text.cutLong (Text.trim s) ++ "` as a date")
      ((Timestamp.read s).map (·.date))

end RecordService
