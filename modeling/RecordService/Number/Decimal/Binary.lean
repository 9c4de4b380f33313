import RecordService.Number.Decimal.Reader
import RecordService.Number.Binary64.Shortest

namespace RecordService.Decimal

/-!
# Decimals and doubles

Conversions between the two kinds of number. Neither is exact in general.

* `ofBinary64?`: a double as a decimal of about fifteen significant digits.
* `toBinary64`: a decimal as a double, by separate rounding of its parts.
* `exactBinary64?`: the double whose shortest text is the decimal, if there is one.
-/

/-! ### From doubles -/

/-- A number `mantissa * 10 ^ exponent` under conversion. -/
structure Scaled where
  mantissa : Nat
  exponent : Int

/-- Divide by two `n` times, a power of ten being the price of each odd step: halve an even
mantissa, multiply an odd one by five, and drop a bit where five times the mantissa has more than
96 bits. -/
def divideByTwos : Nat → Scaled → Scaled
  | 0, s => s
  | n + 1, ⟨m, e⟩ =>
    divideByTwos n <|
      if m % 2 = 0 then ⟨m / 2, e + 1⟩
      else if m * 5 < 2 ^ 96 then ⟨m * 5, e⟩
      else ⟨m / 2, e + 1⟩

/-- Multiply by two `n` times: double the mantissa, and where that has more than 96 bits divide
it by five instead, for a power of ten. -/
def multiplyByTwos : Nat → Scaled → Scaled
  | 0, s => s
  | n + 1, ⟨m, e⟩ =>
    multiplyByTwos n <| if m < 2 ^ 95 then ⟨m * 2, e - 1⟩ else ⟨m / 5, e⟩

/-- Bring a positive exponent to zero. -/
def clearExponent? : Nat → Nat → Option Nat
  | 0, m => some m
  | n + 1, m => if m * 10 < 2 ^ 96 then clearExponent? n (m * 10) else none

/-- Drop one digit, a half going up. -/
def Scaled.dropDigit (s : Scaled) : Scaled :=
  ⟨(s.mantissa + 5) / 10, s.exponent + 1⟩

/-- Drop `n` digits, one at a time. Nothing is left once the mantissa is below ten. -/
def Scaled.dropDigits : Nat → Scaled → Scaled
  | 0, s => s
  | n + 1, s => if s.mantissa / 10 = 0 then ⟨0, 0⟩ else Scaled.dropDigits n s.dropDigit

/-- Drop at most `n` digits until the mantissa has 52 bits. -/
def fitDigits : Nat → Scaled → Scaled
  | 0, s => s
  | n + 1, s => if 2 ^ 52 ≤ s.mantissa then fitDigits n s.dropDigit else s

/-- Drop at most `n` zeros at the end. -/
def dropZeros : Nat → Scaled → Scaled
  | 0, s => s
  | n + 1, s =>
    if s.mantissa % 10 = 0 then dropZeros n ⟨s.mantissa / 10, s.exponent + 1⟩ else s

/-- The places of a number under conversion. -/
def Scaled.places (s : Scaled) : Nat :=
  (-s.exponent).toNat

/-- A finite double as a decimal of about fifteen significant digits, if it is in range. -/
def ofBinary64? (x : Binary64) : Option Decimal :=
  if !x.isFinite then none
  else if x.mantissa = 0 then ofParts? false 0 0
  else if 2 ^ 96 ≤ x.ratio.1 / x.ratio.2 then none
  else
    let start : Scaled := ⟨x.mantissa, x.exponent⟩
    let s :=
      if x.exponent < 0 then divideByTwos (-x.exponent).toNat start
      else multiplyByTwos x.exponent.toNat ⟨x.mantissa, x.exponent⟩
    let s? :=
      if 0 < s.exponent then (clearExponent? s.exponent.toNat s.mantissa).map (⟨·, 0⟩)
      else some s
    s?.bind fun s =>
      let s := Scaled.dropDigits (s.places - maxScale) s
      let s := fitDigits s.places s
      let s := dropZeros s.places s
      ofParts? x.negative s.mantissa s.places

/-! ### To doubles -/

/-- A decimal as a double. The integral part and the places are rounded each on its own, and
their sum is rounded to the places of the decimal. -/
def toBinary64 (d : Decimal) : Binary64 :=
  if d.scale = 0 then Binary64.ofInt d.coefficient
  else
    let unit := 10 ^ d.scale
    let whole := Binary64.ofInt (d.magnitude / unit : Nat)
    let places := (Binary64.ofInt (d.magnitude % unit : Nat)).div (Binary64.ofInt unit)
    let magnitude :=
      if places.mantissa = 0 then whole
      else
        let factor := (Binary64.ofInt 10).pow d.scale
        (((whole.add places).mul factor).round).div factor
    if d.negative then magnitude.neg else magnitude

/-- The double whose shortest text denotes the decimal. -/
def exactBinary64? (d : Decimal) : Option Binary64 :=
  let x := d.toBinary64
  match ofText? (x.toText Binary64.dataLayout) with
  | some back => if back.sameValue d then some x else none
  | none => none

end RecordService.Decimal
