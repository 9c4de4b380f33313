import RecordService.Arithmetic

namespace RecordService

/-!
# Double precision numbers

A number of the format binary64 is kept by its bits. Its value is an integer times a power of
two, so every question about it is one of exact integer arithmetic.

* `Binary64.mantissa`, `Binary64.exponent`: a finite number is `± mantissa * 2 ^ exponent`.
* `Binary64.ofRatio`: the number nearest to a ratio, ties going to the even mantissa.
* `Binary64.truncate`, `Binary64.isWhole`: the integral part, and whether it is all there is.
* `Binary64.add`, `Binary64.mul`, `Binary64.div`, `Binary64.pow`: rounded arithmetic on
  magnitudes.
-/

/-- A number of the format binary64. -/
structure Binary64 where
  bits : UInt64
  deriving DecidableEq, Repr, Inhabited

namespace Binary64

/-! ### The parts of a number -/

/-- The sign bit. -/
def negative (x : Binary64) : Bool :=
  x.bits.toNat / 2 ^ 63 == 1

/-- The exponent as stored. -/
def exponentField (x : Binary64) : Nat :=
  x.bits.toNat / 2 ^ 52 % 2 ^ 11

/-- The fraction as stored. -/
def fraction (x : Binary64) : Nat :=
  x.bits.toNat % 2 ^ 52

/-- Neither infinite nor not a number. -/
def isFinite (x : Binary64) : Bool :=
  x.exponentField != 2047

/-- Not a number. -/
def isNaN (x : Binary64) : Bool :=
  x.exponentField == 2047 && x.fraction != 0

/-- The integer factor of the magnitude of a finite number. -/
def mantissa (x : Binary64) : Nat :=
  if x.exponentField = 0 then x.fraction else x.fraction + 2 ^ 52

/-- The exponent of two that goes with the mantissa. -/
def exponent (x : Binary64) : Int :=
  if x.exponentField = 0 then -1074 else (x.exponentField : Int) - 1075

/-- The magnitude of a finite number as a ratio of integers. -/
def ratio (x : Binary64) : Nat × Nat :=
  if 0 ≤ x.exponent then (x.mantissa * 2 ^ x.exponent.toNat, 1)
  else (x.mantissa, 2 ^ (-x.exponent).toNat)

/-! ### Constants -/

/-- The bits of infinity. -/
def infinityBits : Nat := 2047 * 2 ^ 52

/-- A number with the given sign and magnitude bits. -/
def ofBits (negative : Bool) (magnitude : Nat) : Binary64 :=
  ⟨UInt64.ofNat (magnitude + if negative then 2 ^ 63 else 0)⟩

/-- Zero of either sign. -/
def zero (negative : Bool) : Binary64 := ofBits negative 0

/-- Infinity of either sign. -/
def infinity (negative : Bool) : Binary64 := ofBits negative infinityBits

/-- The quiet value that is no number. -/
def nan (negative : Bool) : Binary64 := ofBits negative (infinityBits + 2 ^ 51)

/-! ### Rounding -/

/-- The integer nearest to a ratio, a tie going to the even one. -/
def roundHalfEven (num den : Nat) : Nat :=
  let below := num / den
  let rest := num % den
  if 2 * rest < den then below
  else if den < 2 * rest then below + 1
  else below + below % 2

/-- The exponent at which the ratio `num / den` has a mantissa of 53 bits, and never less than
the smallest exponent of the format. -/
def exponentFor (num den : Nat) : Int :=
  let guess : Int := (num.log2 : Int) - den.log2
  let reached :=
    if 0 ≤ guess then den * 2 ^ guess.toNat ≤ num else den ≤ num * 2 ^ (-guess).toNat
  max ((if reached then guess else guess - 1) - 52) (-1074)

/-- The number nearest to the ratio `num / den`. The bits of a magnitude grow with it, so a
mantissa that rounds up to the next power of two, or beyond the largest number, needs no care of
its own. -/
def ofRatio (negative : Bool) (num den : Nat) : Binary64 :=
  if num = 0 then zero negative
  else
    let q := exponentFor num den
    let m :=
      if 0 ≤ q then roundHalfEven num (den * 2 ^ q.toNat)
      else roundHalfEven (num * 2 ^ (-q).toNat) den
    ofBits negative (min ((q + 1074).toNat * 2 ^ 52 + m) infinityBits)

/-- The number nearest to an integer. -/
def ofInt (n : Int) : Binary64 :=
  ofRatio (n < 0) n.natAbs 1

/-- The number nearest to `± digits * 10 ^ exponent`. The first two cases keep the powers of
ten within reach of the format. -/
def ofScientific (negative : Bool) (digits : Nat) (exponent : Int) : Binary64 :=
  if digits = 0 ∨ exponent + (Nat.toDigits 10 digits).length < -400 then zero negative
  else if 400 < exponent then infinity negative
  else if 0 ≤ exponent then ofRatio negative (digits * 10 ^ exponent.toNat) 1
  else ofRatio negative digits (10 ^ (-exponent).toNat)

/-! ### Integral part -/

/-- The integral part of a finite number. -/
def truncate (x : Binary64) : Int :=
  let (num, den) := x.ratio
  let n : Int := (num / den : Nat)
  if x.negative then -n else n

/-- A finite number without a fractional part. -/
def isWhole (x : Binary64) : Bool :=
  x.isFinite && x.ratio.1 % x.ratio.2 == 0

/-- The integral part within 64 bits: beyond them the nearest bound, and zero for what is not
a number. -/
def toInt64 (x : Binary64) : Int :=
  if x.isNaN then 0
  else if x.isFinite then max (-2 ^ 63) (min x.truncate (2 ^ 63 - 1))
  else if x.negative then -2 ^ 63 else 2 ^ 63 - 1

/-! ### Arithmetic on magnitudes -/

/-- The sum of two magnitudes. -/
def add (a b : Binary64) : Binary64 :=
  ofRatio false (a.ratio.1 * b.ratio.2 + b.ratio.1 * a.ratio.2) (a.ratio.2 * b.ratio.2)

/-- The product of two magnitudes. -/
def mul (a b : Binary64) : Binary64 :=
  ofRatio false (a.ratio.1 * b.ratio.1) (a.ratio.2 * b.ratio.2)

/-- The quotient of two magnitudes, the second one being positive. -/
def div (a b : Binary64) : Binary64 :=
  ofRatio false (a.ratio.1 * b.ratio.2) (a.ratio.2 * b.ratio.1)

/-- The integer nearest to a magnitude, a half going up. -/
def round (x : Binary64) : Binary64 :=
  let (num, den) := x.ratio
  ofRatio false ((2 * num + den) / (2 * den)) 1

/-- A power by repeated squaring: `acc * base ^ n`, rounded at each product. -/
def powFrom (base acc : Binary64) (n : Nat) : Binary64 :=
  if n = 0 then acc
  else
    let acc := if n % 2 = 1 then acc.mul base else acc
    if n / 2 = 0 then acc else powFrom (base.mul base) acc (n / 2)
termination_by n

/-- A power of a magnitude. -/
def pow (base : Binary64) (n : Nat) : Binary64 :=
  powFrom base (ofInt 1) n

/-- The number with the other sign. -/
def neg (x : Binary64) : Binary64 :=
  ofBits (!x.negative) (x.bits.toNat % 2 ^ 63)

end Binary64

end RecordService
