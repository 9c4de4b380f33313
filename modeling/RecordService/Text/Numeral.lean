import RecordService.Arithmetic

namespace RecordService.Text

/-!
# Integers in text

Reading an integer with an optional sign within bounds. The digits are taken from left to
right and the first fault met is the one reported.

* `readNatural`: up to a bound, an optional plus sign.
* `readInteger`: between two bounds, an optional sign.
-/

/-- Why a text is not an integer of the wanted range. -/
inductive NumeralFault where
  | empty
  | invalidDigit
  | tooLarge
  | tooSmall
  deriving DecidableEq, Repr

/-- The wording of a fault. -/
def NumeralFault.message : NumeralFault → String
  | .empty => "cannot parse integer from empty string"
  | .invalidDigit => "invalid digit found in string"
  | .tooLarge => "number too large to fit in target type"
  | .tooSmall => "number too small to fit in target type"

/-- The value of a digit in a base up to sixteen. -/
def digit? (base : Nat) (c : Char) : Option Nat :=
  let value? :=
    if c.isDigit then some (c.toNat - '0'.toNat)
    else if 'a' ≤ c ∧ c ≤ 'f' then some (c.toNat - 'a'.toNat + 10)
    else if 'A' ≤ c ∧ c ≤ 'F' then some (c.toNat - 'A'.toNat + 10)
    else none
  value?.filter (· < base)

/-- Continue the number `acc` with the digits of a text, up to `limit`. -/
def readDigits (base limit : Nat) (onOverflow : NumeralFault) :
    Nat → List Char → Except NumeralFault Nat
  | acc, [] => .ok acc
  | acc, c :: cs =>
    match digit? base c with
    | none => .error .invalidDigit
    | some d =>
      let next := acc * base + d
      if limit < next then .error onOverflow else readDigits base limit onOverflow next cs

/-- One digit or more. -/
def readMagnitude (base limit : Nat) (onOverflow : NumeralFault) :
    List Char → Except NumeralFault Nat
  | [] => .error .invalidDigit
  | cs => readDigits base limit onOverflow 0 cs

/-- A natural number up to `limit`, a plus sign being allowed. -/
def readNatural (base limit : Nat) : List Char → Except NumeralFault Nat
  | [] => .error .empty
  | '+' :: cs => readMagnitude base limit .tooLarge cs
  | cs => readMagnitude base limit .tooLarge cs

/-- An integer of at least `-low` and at most `high`. -/
def readInteger (low high : Nat) : List Char → Except NumeralFault Int
  | [] => .error .empty
  | '+' :: cs => (readMagnitude 10 high .tooLarge cs).map Int.ofNat
  | '-' :: cs => (readMagnitude 10 low .tooSmall cs).map fun n => -(n : Int)
  | cs => (readMagnitude 10 high .tooLarge cs).map Int.ofNat

/-- An integer of 64 bits. -/
def readInt64 (s : String) : Except NumeralFault Int :=
  readInteger (2 ^ 63) (2 ^ 63 - 1) s.toList

/-- An integer of 32 bits. -/
def readInt32 (s : String) : Except NumeralFault Int :=
  readInteger (2 ^ 31) (2 ^ 31 - 1) s.toList

/-- A natural number of 32 bits. -/
def readNat32 (s : String) : Except NumeralFault Nat :=
  readNatural 10 (2 ^ 32 - 1) s.toList

end RecordService.Text
