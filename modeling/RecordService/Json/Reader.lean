import RecordService.Json
import RecordService.Number.Binary64.Reader
import RecordService.Text.Numeral

namespace RecordService.Json

/-!
# Reading JSON

A reader of JSON text. Each step takes some characters and returns the rest; a value ends where
its text does, so the number of characters bounds the depth of the reading.

* `ofText?`: a value that takes the whole text.
-/

/-- White space between tokens. -/
def isSpace (c : Char) : Bool :=
  c == ' ' || c == '\n' || c == '\r' || c == '\t'

/-- What follows the white space at the start. -/
def skipSpace (cs : List Char) : List Char :=
  cs.dropWhile isSpace

/-! ### Strings -/

/-- The number written by four hexadecimal digits, and the rest. -/
def fourHex? : List Char → Option (Nat × List Char)
  | a :: b :: c :: d :: rest => do
    let value := Text.digit? 16
    return (((← value a) * 16 + (← value b)) * 256 + (← value c) * 16 + (← value d), rest)
  | _ => none

/-- The character behind a backslash and a `u`. Two surrogates in a row are one character. -/
def unicodeEscape? (cs : List Char) : Option (Char × List Char) := do
  let (n, rest) ← fourHex? cs
  if 0xD800 ≤ n ∧ n < 0xDC00 then
    match rest with
    | '\\' :: 'u' :: rest =>
      let (m, rest) ← fourHex? rest
      if 0xDC00 ≤ m ∧ m < 0xE000 then
        return (Char.ofNat (0x10000 + (n - 0xD800) * 0x400 + (m - 0xDC00)), rest)
      else none
    | _ => none
  else if 0xDC00 ≤ n ∧ n < 0xE000 then none
  else return (Char.ofNat n, rest)

/-- The character behind a backslash. -/
def escape? : List Char → Option (Char × List Char)
  | '"' :: rest => some ('"', rest)
  | '\\' :: rest => some ('\\', rest)
  | '/' :: rest => some ('/', rest)
  | 'b' :: rest => some ('\x08', rest)
  | 'f' :: rest => some ('\x0c', rest)
  | 'n' :: rest => some ('\n', rest)
  | 'r' :: rest => some ('\r', rest)
  | 't' :: rest => some ('\t', rest)
  | 'u' :: rest => unicodeEscape? rest
  | _ => none

/-- The characters of a string up to its closing quote. -/
def stringRest? : Nat → List Char → List Char → Option (String × List Char)
  | 0, _, _ => none
  | _ + 1, _, [] => none
  | fuel + 1, read, c :: rest =>
    if c = '"' then some (String.ofList read.reverse, rest)
    else if c = '\\' then
      (escape? rest).bind fun (c, rest) => stringRest? fuel (c :: read) rest
    else stringRest? fuel (c :: read) rest

/-! ### Numbers -/

/-- The characters a number may have. -/
def isNumberChar (c : Char) : Bool :=
  c.isDigit || c == '-' || c == '+' || c == '.' || c == 'e' || c == 'E'

/-- The bounds of an integer: 64 bits, with a sign or without. -/
def fitsInteger (n : Int) : Bool :=
  -2 ^ 63 ≤ n && n < 2 ^ 64

/-- Digits read into a number of 64 bits without sign, up to the first that makes it too large. -/
def takeDigits (n : Nat) : List Char → Nat × List Char
  | [] => (n, [])
  | c :: cs =>
    let m := n * 10 + (c.toNat - '0'.toNat)
    if m < 2 ^ 64 then takeDigits m cs else (n, c :: cs)

/-- The largest exponent of a power of ten that is a double. -/
def maxPower : Nat := 308

/-- The double nearest to a power of ten. -/
def tenTo (n : Nat) : Binary64 :=
  Binary64.ofScientific false 1 n

/-- Multiply a double by a power of ten in double arithmetic, dividing where the exponent is
negative. There is no result beyond the largest double. -/
def scaleByTen? (x : Binary64) (exponent : Int) : Option Binary64 :=
  if 0 ≤ exponent then
    if exponent ≤ maxPower then
      let product := x.mul (tenTo exponent.toNat)
      if product.isFinite then some product else none
    else if x.mantissa = 0 then some x
    else none
  else if -(maxPower : Int) ≤ exponent then some (x.div (tenTo (-exponent).toNat))
  else if x.mantissa = 0 then some x
  else scaleByTen? (x.div (tenTo maxPower)) (exponent + maxPower)
termination_by exponent.natAbs
decreasing_by simp only [maxPower] at *; omega

/-- The double of digits before and after the point and an exponent. The digits count as far as
they fit into 64 bits, and each step rounds, so this is near to the number and not always the
nearest. -/
def doubleOf? (negative : Bool) (whole places : List Char) (exponent : Int) : Option Binary64 :=
  let (n, dropped) := takeDigits 0 whole
  let (n, rest) := takeDigits n places
  let taken := places.length - rest.length
  let x? := scaleByTen? (Binary64.ofInt n) (exponent + dropped.length - taken)
  if negative then x?.map Binary64.neg else x?

/-- A number without its sign. A minus zero is a double, it has a sign. -/
def magnitude? (negative : Bool) (cs : List Char) : Option Json :=
  let (whole, rest) := cs.span Char.isDigit
  let digits := Binary64.natOfDigits whole
  let n : Int := if negative then -(digits : Int) else digits
  if whole.isEmpty then none
  else if rest.isEmpty && fitsInteger n && !(negative && digits == 0) then some (int n)
  else
    let (places, rest) :=
      match rest with
      | '.' :: rest => rest.span Char.isDigit
      | rest => ([], rest)
    (Binary64.scanExponent? rest).bind fun exponent =>
      (doubleOf? negative whole places exponent).map double

/-- A number. -/
def number? : List Char → Option Json
  | '-' :: cs => magnitude? true cs
  | cs => magnitude? false cs

/-! ### Values -/

mutual

/-- A value at the start of a text. -/
def value? : Nat → List Char → Option (Json × List Char)
  | 0, _ => none
  | fuel + 1, cs =>
    match skipSpace cs with
    | 'n' :: 'u' :: 'l' :: 'l' :: rest => some (null, rest)
    | 't' :: 'r' :: 'u' :: 'e' :: rest => some (bool true, rest)
    | 'f' :: 'a' :: 'l' :: 's' :: 'e' :: rest => some (bool false, rest)
    | '"' :: rest =>
      (stringRest? (rest.length + 1) [] rest).map fun (s, rest) => (string s, rest)
    | '[' :: rest =>
      match skipSpace rest with
      | ']' :: rest => some (array [], rest)
      | rest => (items? fuel rest).map fun (items, rest) => (array items, rest)
    | '\x7b' :: rest =>
      match skipSpace rest with
      | '\x7d' :: rest => some (object [], rest)
      | rest =>
        (members? fuel rest).map fun (members, rest) => (ofDict (Dict.ofList members), rest)
    | cs =>
      let (number, rest) := cs.span isNumberChar
      (number? number).map (·, rest)

/-- One item or more, with commas between them, up to the closing bracket. -/
def items? : Nat → List Char → Option (List Json × List Char)
  | 0, _ => none
  | fuel + 1, cs =>
    (value? fuel cs).bind fun (item, rest) =>
      match skipSpace rest with
      | ',' :: rest => (items? fuel rest).map fun (items, rest) => (item :: items, rest)
      | ']' :: rest => some ([item], rest)
      | _ => none

/-- One member or more, with commas between them, up to the closing brace. -/
def members? : Nat → List Char → Option (List (String × Json) × List Char)
  | 0, _ => none
  | fuel + 1, cs =>
    match skipSpace cs with
    | '"' :: rest =>
      (stringRest? (rest.length + 1) [] rest).bind fun (name, rest) =>
        match skipSpace rest with
        | ':' :: rest =>
          (value? fuel rest).bind fun (value, rest) =>
            match skipSpace rest with
            | ',' :: rest =>
              (members? fuel rest).map fun (members, rest) => ((name, value) :: members, rest)
            | '\x7d' :: rest => some ([(name, value)], rest)
            | _ => none
        | _ => none
    | _ => none

end

/-- Read a value that takes the whole text. -/
def ofText? (s : String) : Option Json :=
  let cs := s.toList
  match value? (cs.length + 1) cs with
  | some (value, rest) => if (skipSpace rest).isEmpty then some value else none
  | none => none

end RecordService.Json
