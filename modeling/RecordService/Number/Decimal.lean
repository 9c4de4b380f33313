import RecordService.Number.Binary64

namespace RecordService

/-!
# Decimals

A decimal is a sign and an integer of 96 bits over a power of ten of at most 28 places. The number
of places is part of a decimal, so `1.5` and `1.50` differ as decimals and are equal as numbers.
So is the sign of a zero: a small negative number that loses its last digit to a scaling leaves a
zero with a minus sign.

* `Decimal.compare`: order by value.
* `Decimal.roundTo`: fewer places, a half going to the even neighbour.
* `Decimal.toText`, `Decimal.toTextAt?`: the text with all places, or cut to a number of them.
-/

/-- The number `± magnitude / 10 ^ scale`. -/
structure Decimal where
  negative : Bool
  magnitude : Nat
  scale : Nat
  magnitude_lt : magnitude < 2 ^ 96
  scale_le : scale ≤ 28
  deriving DecidableEq, Repr

namespace Decimal

/-- The most places a decimal can have. -/
def maxScale : Nat := 28

/-- The decimal with the given parts, if they are within bounds. A zero has no sign. -/
def ofParts? (negative : Bool) (magnitude scale : Nat) : Option Decimal :=
  if h : magnitude < 2 ^ 96 ∧ scale ≤ 28 then
    some ⟨negative && magnitude != 0, magnitude, scale, h.1, h.2⟩
  else none

instance : Inhabited Decimal := ⟨⟨false, 0, 0, by decide, by decide⟩⟩

/-- The numerator over `10 ^ scale`. -/
def coefficient (d : Decimal) : Int :=
  if d.negative then -(d.magnitude : Int) else d.magnitude

/-- An integer of 64 bits. -/
def ofInt64 (n : Int64) : Decimal where
  negative := n.toInt < 0
  magnitude := n.toInt.natAbs
  scale := 0
  magnitude_lt := by have := n.toInt_lt; have := n.le_toInt; omega
  scale_le := by decide

/-- An integer of 32 bits. -/
def ofInt32 (n : Int32) : Decimal :=
  ofInt64 n.toInt64

@[simp] theorem ofInt64_coefficient (n : Int64) : (ofInt64 n).coefficient = n.toInt := by
  simp only [coefficient, ofInt64, decide_eq_true_eq]
  split <;> omega

@[simp] theorem ofInt64_scale (n : Int64) : (ofInt64 n).scale = 0 := rfl

/-! ### Order -/

/-- The numerator of a decimal over the common denominator with another one. -/
def numeratorWith (a b : Decimal) : Int :=
  a.coefficient * 10 ^ b.scale

/-- Comparison by value, whatever the number of places and the sign of a zero. -/
def compare (a b : Decimal) : Ordering :=
  Ord.compare (a.numeratorWith b) (b.numeratorWith a)

/-- Equality by value. -/
def sameValue (a b : Decimal) : Bool :=
  a.compare b == .eq

/-! ### Rounding and integral part -/

/-- Rounding adds at most one to what was divided by two or more. -/
theorem roundHalfEven_le (num : Nat) {den : Nat} (h : 2 ≤ den) :
    Binary64.roundHalfEven num den ≤ max num 1 := by
  have hd : num / den ≤ num / 2 := Nat.div_le_div_left h (by decide)
  simp only [Binary64.roundHalfEven]
  generalize num / den = below at hd
  split
  · omega
  · split <;> omega

/-- A power of ten is two at least, unless it is one. -/
theorem two_le_ten_pow {n : Nat} (h : 0 < n) : 2 ≤ 10 ^ n := by
  have h1 : 10 ^ 1 ≤ 10 ^ n := Nat.pow_le_pow_right (by decide) h
  omega

/-- The decimal nearest to the number with at most `places` places, a half going to the even
neighbour. Places are never added. What is rounded to zero loses its sign, and what was zero
keeps it. -/
def roundTo (places : Nat) (d : Decimal) : Decimal :=
  if h : d.scale ≤ places then d
  else
    let m := Binary64.roundHalfEven d.magnitude (10 ^ (d.scale - places))
    { negative := d.negative && (d.magnitude == 0 || m != 0)
      magnitude := m
      scale := places
      magnitude_lt := by
        have hm : m ≤ max d.magnitude 1 := roundHalfEven_le _ (two_le_ten_pow (by omega))
        have hd := d.magnitude_lt
        omega
      scale_le := by have := d.scale_le; omega }

/-- Whether the number has no fractional part. -/
def isWhole (d : Decimal) : Bool :=
  d.magnitude % 10 ^ d.scale == 0

/-- The integral part. -/
def truncate (d : Decimal) : Int :=
  d.coefficient.tdiv (10 ^ d.scale)

/-! ### Text -/

/-- The digits of the integral part and of the places. -/
def digits (d : Decimal) : List Char × List Char :=
  let places := Nat.toDigits 10 (d.magnitude % 10 ^ d.scale)
  (Nat.toDigits 10 (d.magnitude / 10 ^ d.scale),
    if d.scale = 0 then [] else List.replicate (d.scale - places.length) '0' ++ places)

/-- The parts of a number with their sign and point. -/
def layOut (negative : Bool) (whole places : List Char) : String :=
  String.ofList <|
    (if negative then ['-'] else []) ++ whole ++
      if places.isEmpty then [] else '.' :: places

/-- The text with all places. -/
def toText (d : Decimal) : String :=
  layOut d.negative d.digits.1 d.digits.2

/-- The room for a text without its sign, up to the last place that a decimal can have. -/
def textRoom : Nat := 32

/-- The most places that can be asked for. -/
def maxTextPlaces : Nat := 2 ^ 16 - 1

/-- The text with exactly `count` places, cut or filled up with zeros. There is none if the digits
and the point do not fit into their room, zeros beyond the places of a decimal not counting. -/
def toTextAt? (count : Nat) (d : Decimal) : Option String :=
  if count ≤ maxTextPlaces ∧ d.digits.1.length + 1 + min count maxScale ≤ textRoom then
    let kept := d.digits.2.take count
    some (layOut d.negative d.digits.1 (kept ++ List.replicate (count - kept.length) '0'))
  else none

end Decimal

end RecordService
