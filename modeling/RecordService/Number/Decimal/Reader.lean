import RecordService.Number.Decimal
import RecordService.Text.Numeral

namespace RecordService.Decimal

/-!
# Reading decimals

A decimal in text: an optional sign, digits with an optional point, underscores after a digit,
and an optional exponent. Places that do not fit are rounded, the first one that is dropped
deciding.

* `scan?`: the digits of a number without exponent.
* `scaleUp?`, `scaleDown?`: the shift of the point by an exponent.
* `ofText?`: a number with or without exponent.
-/

/-- What has been read of a number. -/
structure Scan where
  magnitude : Nat
  scale : Nat
  point : Bool
  digit : Bool

/-- The magnitudes below which an underscore stands for a zero where places are dropped. -/
def plainMagnitude : Nat := 1844674407370954906

/-- The first digit that is dropped. An underscore in its place is passed over if the places before
it make a large number, and is a zero otherwise. -/
def Scan.dropped? (s : Scan) (rest : List Char) : Option Char :=
  if s.magnitude / 10 < plainMagnitude then rest.head? else rest.find? Char.isDigit

/-- Round at the places that are dropped, which are digits with underscores. A magnitude that grows
out of its bounds loses its last place. -/
def Scan.round? (s : Scan) (rest : List Char) : Option Scan :=
  if !rest.all fun c => c.isDigit || c == '_' then none
  else if !(s.dropped? rest).any fun c => c.isDigit && '5' ≤ c then some s
  else if s.magnitude + 1 < 2 ^ 96 then some { s with magnitude := s.magnitude + 1 }
  else if s.scale = 0 then none
  else some { s with magnitude := (s.magnitude + 5) / 10, scale := s.scale - 1 }

/-- Read a number without sign and exponent. -/
def scan? (s : Scan) : List Char → Option Scan
  | [] => if s.digit then some s else none
  | c :: cs =>
    if s.point && maxScale ≤ s.scale then s.round? (c :: cs)
    else if c.isDigit then
      let n := s.magnitude * 10 + (c.toNat - '0'.toNat)
      if n < 2 ^ 96 then
        scan? { s with magnitude := n, scale := if s.point then s.scale + 1 else 0, digit := true } cs
      else if s.point then s.round? (c :: cs)
      else none
    else if c == '.' && !s.point then scan? { s with point := true } cs
    else if c == '_' && s.digit then scan? s cs
    else none

/-- A number with an optional sign and without exponent. -/
def ofPlain? (cs : List Char) : Option Decimal :=
  let (negative, cs) :=
    match cs with
    | '-' :: cs => (true, cs)
    | '+' :: cs => (false, cs)
    | cs => (false, cs)
  (scan? ⟨0, 0, false, false⟩ cs).bind fun s => ofParts? negative s.magnitude s.scale

/-! ### Exponents -/

/-- Multiply by `10 ^ n`: the places go first, then zeros are added. -/
def scaleUp? (d : Decimal) (n : Nat) : Option Decimal :=
  if n ≤ d.scale then ofParts? d.negative d.magnitude (d.scale - n)
  else if n ≤ maxScale then ofParts? d.negative (d.magnitude * 10 ^ (n - d.scale)) 0
  else none

/-- Drop the last `n` digits of a magnitude. The first of them decides the rounding, a half going
up. -/
def dropDigits (n m : Nat) : Nat :=
  if n = 0 then m else (m / 10 ^ (n - 1) + 5) / 10

theorem dropDigits_le (n m : Nat) : dropDigits n m ≤ max m 1 := by
  have h : m / 10 ^ (n - 1) ≤ m := Nat.div_le_self _ _
  simp only [dropDigits]
  split <;> omega

/-- Divide by `10 ^ n`: places are added, and the digits that go beyond the last place are dropped.
The sign stays even if no digit does. -/
def scaleDown? (d : Decimal) (n : Nat) : Option Decimal :=
  if maxScale < n then none
  else
    some
      { negative := d.negative
        magnitude := dropDigits (d.scale + n - maxScale) d.magnitude
        scale := min (d.scale + n) maxScale
        magnitude_lt := by
          have := dropDigits_le (d.scale + n - maxScale) d.magnitude
          have := d.magnitude_lt
          omega
        scale_le := Nat.min_le_right _ _ }

/-- The largest exponent that is read. -/
def exponentLimit : Nat := 2 ^ 32 - 1

/-- Apply an exponent. -/
def applyExponent? (d : Decimal) : List Char → Option Decimal
  | '-' :: cs =>
    match Text.readNatural 10 exponentLimit cs with
    | .ok n => d.scaleDown? n
    | .error _ => none
  | cs =>
    match Text.readNatural 10 exponentLimit cs with
    | .ok n => d.scaleUp? n
    | .error _ => none

/-- The letters before an exponent. -/
def isExponentMark (c : Char) : Bool :=
  c == 'e' || c == 'E'

/-- A decimal that takes the whole text. -/
def ofText? (s : String) : Option Decimal :=
  match s.toList.span fun c => !isExponentMark c with
  | (base, []) => ofPlain? base
  | (base, _ :: exponent) => (ofPlain? base).bind (applyExponent? · exponent)

end RecordService.Decimal
