import RecordService.Number.Binary64

namespace RecordService.Binary64

/-!
# Reading doubles

A number in text: an optional sign, then digits with an optional point and exponent, or one of
the words `inf`, `infinity` and `nan` in any case. It is read as the nearest double.

* `scanScientific?`: a plain number as digits and an exponent of ten.
* `ofText?`: any of the forms.
-/

/-- The number written by decimal digits. -/
def natOfDigits (ds : List Char) : Nat :=
  ds.foldl (fun n c => n * 10 + (c.toNat - '0'.toNat)) 0

/-- An exponent: its letter, an optional sign, and one digit or more to the end of the text. No
exponent counts as zero. -/
def scanExponent? : List Char → Option Int
  | [] => some 0
  | c :: cs =>
    if c == 'e' || c == 'E' then
      let (sign, ds) :=
        match cs with
        | '-' :: ds => (-1, ds)
        | '+' :: ds => (1, ds)
        | ds => ((1 : Int), ds)
      if ds.isEmpty || !ds.all Char.isDigit then none else some (sign * natOfDigits ds)
    else none

/-- A number without sign that takes the whole text: its digits and the exponent of ten. At
least one digit stands before the exponent. -/
def scanScientific? (cs : List Char) : Option (Nat × Int) :=
  let (whole, rest) := cs.span Char.isDigit
  let (places, rest) :=
    match rest with
    | '.' :: rest => rest.span Char.isDigit
    | rest => ([], rest)
  if whole.isEmpty && places.isEmpty then none
  else (scanExponent? rest).map fun e => (natOfDigits (whole ++ places), e - places.length)

/-- A number without sign in any form. -/
def ofMagnitude? (negative : Bool) (cs : List Char) : Option Binary64 :=
  let word := cs.map Char.toLower
  if word == "inf".toList || word == "infinity".toList then some (infinity negative)
  else if word == "nan".toList then some (nan negative)
  else (scanScientific? cs).map fun (n, e) => ofScientific negative n e

/-- A number that takes the whole text. -/
def ofText? (s : String) : Option Binary64 :=
  match s.toList with
  | '-' :: cs => ofMagnitude? true cs
  | '+' :: cs => ofMagnitude? false cs
  | cs => ofMagnitude? false cs

end RecordService.Binary64
