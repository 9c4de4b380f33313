import RecordService.Number.Binary64

namespace RecordService.Binary64

/-!
# Shortest digits

The text of a double has the fewest decimal digits that read back as the same number, and of
those the nearest to it.

* `Binary64.Interval`: the reals that round to a number.
* `Binary64.shortest`: the digits and the exponent of ten.
* `Binary64.Layout`: how digits are laid out; `jsonLayout`, `dataLayout` and `plainLayout` are
  the three in use.
-/

/-! ### The interval of a number -/

/-- A magnitude between two bounds, all as numerators over one denominator. -/
structure Interval where
  low : Nat
  value : Nat
  high : Nat
  den : Nat
  closed : Bool

/-- The reals that round to a finite number: half the distance to its neighbours on each side,
the lower neighbour of a power of two being twice as near. The ends round to the number when its
mantissa is even. -/
def interval (x : Binary64) : Interval :=
  let m := x.mantissa
  let q := x.exponent - 2
  let up := if 0 ≤ q then 2 ^ q.toNat else 1
  let below := if x.fraction = 0 ∧ 1 < x.exponentField then 1 else 2
  { low := (4 * m - below) * up
    value := 4 * m * up
    high := (4 * m + 2) * up
    den := if 0 ≤ q then 1 else 2 ^ (-q).toNat
    closed := m % 2 == 0 }

/-- Whether `n * 10 ^ t` lies in the interval. -/
def Interval.contains (i : Interval) (n : Nat) (t : Int) : Bool :=
  let (scaled, factor) :=
    if 0 ≤ t then (n * 10 ^ t.toNat * i.den, 1) else (n * i.den, 10 ^ (-t).toNat)
  if i.closed then i.low * factor ≤ scaled && scaled ≤ i.high * factor
  else i.low * factor < scaled && scaled < i.high * factor

/-! ### The search -/

/-- The number of decimal digits of `n`, one for zero. -/
def digitCount (n : Nat) : Nat :=
  (Nat.toDigits 10 n).length

/-- The exponent `k` with `10 ^ k ≤ num / den < 10 ^ (k + 1)`, for a positive ratio. -/
def decimalExponent (num den : Nat) : Int :=
  if den ≤ num then (digitCount (num / den) : Int) - 1
  else -(digitCount ((den + num - 1) / num - 1) : Int)

/-- The point nearest to the value on the decimal grid of `count` digits, if one of the value's
two neighbours on it reads back. `tieUp` says which of two equally near ones is taken: the upper
one, or else the even one. -/
def candidate (tieUp : Bool) (i : Interval) (k : Int) (count : Nat) : Option (Nat × Int) :=
  let t := k + 1 - count
  let (num, den) :=
    if 0 ≤ t then (i.value, i.den * 10 ^ t.toNat) else (i.value * 10 ^ (-t).toNat, i.den)
  let below := num / den
  let rest := num % den
  let upper :=
    den < 2 * rest || (den == 2 * rest && (tieUp || below % 2 == 1))
  match i.contains below t, i.contains (below + 1) t with
  | true, true => some (if upper then below + 1 else below, t)
  | true, false => some (below, t)
  | false, true => some (below + 1, t)
  | false, false => none

/-- Move trailing zeros of the digits into the exponent. -/
def stripZeros (n : Nat) (t : Int) : Nat × Int :=
  if h : n ≠ 0 ∧ n % 10 = 0 then stripZeros (n / 10) (t + 1) else (n, t)
termination_by n
decreasing_by omega

/-- The fewest digits that read back as a finite number other than zero: the number is about
`digits * 10 ^ exponent`. Seventeen digits always read back. -/
def shortest (tieUp : Bool) (x : Binary64) : Nat × Int :=
  let i := x.interval
  let k := decimalExponent i.value i.den
  match (List.range 17).findSome? fun n => candidate tieUp i k (n + 1) with
  | some (n, t) => stripZeros n t
  | none => (0, 0)

/-! ### Layout -/

/-- How the digits of a number are written. -/
structure Layout where
  /-- Which exponents, of the first digit, are written without an exponent. -/
  positional : Int → Bool
  /-- Whether a number without fractional digits ends in `.0` when written positionally. -/
  keepsFraction : Bool
  /-- Whether a positive exponent has a plus sign. -/
  plusSign : Bool
  /-- Whether the upper one of two equally near digits is taken. -/
  tieUp : Bool

/-- Numbers in JSON text: `1.0`, `0.00001`, `1e+16`, `1e-7`. -/
def jsonLayout : Layout :=
  ⟨fun e => -5 ≤ e && e < 16, true, true, false⟩

/-- Numbers in the XML dialect: as in JSON, without a plus sign. -/
def dataLayout : Layout :=
  ⟨fun e => -5 ≤ e && e < 16, true, false, false⟩

/-- Numbers in messages: never an exponent. -/
def plainLayout : Layout :=
  ⟨fun _ => true, false, false, true⟩

/-- `n` zeros. -/
def zeros (n : Nat) : List Char :=
  List.replicate n '0'

/-- Digits with their point, without an exponent. -/
def layPositional (l : Layout) (digits : List Char) (t : Int) : List Char :=
  if 0 ≤ t then
    digits ++ zeros t.toNat ++ if l.keepsFraction then ['.', '0'] else []
  else
    let point := (digits.length : Int) + t
    if 0 < point then digits.take point.toNat ++ '.' :: digits.drop point.toNat
    else '0' :: '.' :: zeros (-point).toNat ++ digits

/-- Digits with an exponent. -/
def layScientific (l : Layout) (digits : List Char) (e : Int) : List Char :=
  let fraction := digits.drop 1
  let sign := if e < 0 then ['-'] else if l.plusSign then ['+'] else []
  digits.take 1 ++ (if fraction.isEmpty then [] else '.' :: fraction) ++
    'e' :: sign ++ Nat.toDigits 10 e.natAbs

/-- The text of the magnitude of a finite number. -/
def layMagnitude (l : Layout) (x : Binary64) : List Char :=
  let (n, t) := if x.mantissa = 0 then (0, 0) else x.shortest l.tieUp
  let digits := Nat.toDigits 10 n
  let e := t + (digits.length : Int) - 1
  if l.positional e then layPositional l digits t else layScientific l digits e

/-- The text of a number. -/
def toText (l : Layout) (x : Binary64) : String :=
  if x.isNaN then "NaN"
  else
    let magnitude := if x.isFinite then layMagnitude l x else "inf".toList
    String.ofList (if x.negative then '-' :: magnitude else magnitude)

end RecordService.Binary64
