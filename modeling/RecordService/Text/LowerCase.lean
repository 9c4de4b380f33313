import RecordService.Text.Alphanumeric
import RecordService.Text.CaseProperties

namespace RecordService.Text

/-!
# Lower case

Full lower-casing of a text, and equality of names ignoring ASCII case.

* `lower`: every character in its lower case; a capital sigma that ends a word becomes the
  final sigma, and a capital I with a dot becomes two characters.
* `eqIgnoreCase`: equality of two texts up to the case of ASCII letters.
-/

/-! ### One character -/

/-- The characters that a character becomes in lower case, a capital sigma being taken as
one inside a word. -/
def lowerChar (c : Char) : List Char :=
  let n := c.toNat
  if n < 128 then [c.toLower]
  else if n == 0x130 then ['i', '\u0307']
  else
    match lowerCaseRuns.find? fun (first, last, step, _) =>
        first ≤ n && n ≤ last && (n - first) % step == 0 with
    | some (_, _, _, distance) => [Char.ofNat ((n : Int) + distance).toNat]
    | none => [c]

/-- A character with the property `Cased`. -/
def isCased (c : Char) : Bool :=
  if c.toNat < 128 then c.isAlpha else inRanges casedRanges c.toNat

/-- A character with the property `Case_Ignorable`. -/
def isCaseIgnorable (c : Char) : Bool :=
  if c.toNat < 128 then ['\'', '.', ':', '^', (Char.ofNat 0x60)].contains c
  else inRanges caseIgnorableRanges c.toNat

/-! ### Texts -/

/-- Whether the first character that is not case-ignorable is cased. -/
def reachesCased (cs : List Char) : Bool :=
  match cs.dropWhile isCaseIgnorable with
  | c :: _ => isCased c
  | [] => false

/-- Lower-case the rest of a text, `before` being what precedes it, last character first. A
capital sigma ends a word when a cased letter comes before it and none after it. -/
def lowerFrom (before : List Char) : List Char → List Char
  | [] => []
  | c :: rest =>
    let here :=
      if c == 'Σ' then
        if reachesCased before && !reachesCased rest then ['ς'] else ['σ']
      else lowerChar c
    here ++ lowerFrom (c :: before) rest

/-- The lower case of a text, as characters. -/
def lowerChars (cs : List Char) : List Char :=
  lowerFrom [] cs

/-- The lower case of a text. -/
def lower (s : String) : String :=
  String.ofList (lowerChars s.toList)

/-! ### Names -/

/-- The text with its ASCII letters in lower case. -/
def foldAscii (s : String) : List Char :=
  s.toList.map Char.toLower

/-- Equality of names: the case of ASCII letters does not count. -/
def eqIgnoreCase (a b : String) : Bool :=
  foldAscii a == foldAscii b

/-- Texts are the same but for case exactly if they fold to the same characters. -/
theorem eqIgnoreCase_iff {a b : String} : eqIgnoreCase a b = true ↔ foldAscii a = foldAscii b := by
  simp [eqIgnoreCase]

@[simp] theorem eqIgnoreCase_self (a : String) : eqIgnoreCase a a = true := by
  simp [eqIgnoreCase]

theorem eqIgnoreCase_comm (a b : String) : eqIgnoreCase a b = eqIgnoreCase b a := by
  simp only [eqIgnoreCase, Bool.beq_comm]

/-- Texts that are the same as a third one but for case are so to each other. -/
theorem eqIgnoreCase_trans {a b c : String} (hab : eqIgnoreCase a b = true)
    (hbc : eqIgnoreCase b c = true) : eqIgnoreCase a c = true := by
  rw [eqIgnoreCase_iff] at *
  exact hab.trans hbc

end RecordService.Text
