import RecordService.Text.Blank
import RecordService.Text.Numeral

namespace RecordService

/-!
# Identifiers

Identifiers of records are numbers of 128 bits, written as 32 hexadecimal digits in groups of
8, 4, 4, 4 and 12.

* `Uuid.toText`: the written form, with small letters.
* `Uuid.ofText?`: reads the written form, the bare digits, and the written form in braces or
  behind `urn:uuid:`.
-/

/-- An identifier. -/
structure Uuid where
  value : Nat
  value_lt : value < 2 ^ 128
  deriving DecidableEq, Repr

namespace Uuid

/-- The identifier with the given number, if it has 128 bits. -/
def ofNat? (n : Nat) : Option Uuid :=
  if h : n < 2 ^ 128 then some ⟨n, h⟩ else none

/-- The identifier that counts as the `n`-th, of those that begin with
`00000000-0000-4000-a000-`. -/
def numbered (n : Nat) : Uuid :=
  ⟨0x4000a000 * 2 ^ 48 + n % 2 ^ 48, by omega⟩

/-- The order of the digits. -/
def compare (a b : Uuid) : Ordering :=
  Ord.compare a.value b.value

/-! ### Text -/

/-- The sizes of the groups of digits. -/
def groupSizes : List Nat := [8, 4, 4, 4, 12]

/-- All 32 digits. -/
def digits (u : Uuid) : List Char :=
  let ds := Nat.toDigits 16 u.value
  List.replicate (32 - ds.length) '0' ++ ds

/-- Put hyphens between groups of digits. -/
def hyphenate : List Nat → List Char → List Char
  | [], _ => []
  | [n], cs => cs.take n
  | n :: ns, cs => cs.take n ++ '-' :: hyphenate ns (cs.drop n)

/-- The written form. -/
def toText (u : Uuid) : String :=
  String.ofList (hyphenate groupSizes u.digits)

/-! ### Reading -/

/-- The number written by hexadecimal digits. -/
def ofDigits? (cs : List Char) : Option Uuid :=
  if cs.length = 32 then
    (cs.mapM (Text.digit? 16)).bind fun ds => ofNat? (ds.foldl (fun n d => n * 16 + d) 0)
  else none

/-- Take the hyphens out from between groups of the given sizes. -/
def unhyphenate? : List Nat → List Char → Option (List Char)
  | [], cs => if cs.isEmpty then some [] else none
  | [n], cs => if cs.length = n then some cs else none
  | n :: ns, cs =>
    match cs.drop n with
    | '-' :: rest => (unhyphenate? ns rest).map (cs.take n ++ ·)
    | _ => none

/-- Read the written form. -/
def ofHyphenated? (cs : List Char) : Option Uuid :=
  (unhyphenate? groupSizes cs).bind ofDigits?

/-- The start of an identifier written as a name. -/
def urnStart : List Char := "urn:uuid:".toList

/-- Read an identifier that takes the whole text. -/
def ofText? (s : String) : Option Uuid :=
  let cs := s.toList
  if cs.length = 32 then ofDigits? cs
  else if cs.head? == some '{' && cs.getLast? == some '}' then
    ofHyphenated? (cs.drop 1).dropLast
  else if (cs.take urnStart.length).map Char.toLower == urnStart then
    ofHyphenated? (cs.drop urnStart.length)
  else ofHyphenated? cs

end Uuid

end RecordService
