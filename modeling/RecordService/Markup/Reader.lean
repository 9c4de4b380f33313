import RecordService.Failure
import RecordService.Markup
import RecordService.Text.Alphanumeric
import RecordService.Text.Blank
import RecordService.Text.Cut
import RecordService.Text.LowerCase
import RecordService.Text.Numeral

namespace RecordService.Element

/-!
# Reading markup

A reader of element trees. White space, comments and processing instructions between elements
are skipped. Every step takes characters away, so that the length of a text bounds the reading.

* `decode`: a text with its character entities replaced.
* `Element.ofText`: the element that makes up a text.
-/

/-- The failure of a text that is not well formed. -/
def malformed {α : Type} (message : String) : Answer α :=
  fail (.format message)

/-- The rest of a text as messages quote it. -/
def rest (cs : List Char) : String :=
  Text.cutLong (String.ofList cs)

/-- What follows a token. -/
def expect (token : String) (cs : List Char) : Answer (List Char) :=
  if token.toList.isPrefixOf cs then .ok (cs.drop token.length)
  else malformed ("expected `" ++ token ++ "` at `" ++ rest cs ++ "`")

/-! ### What is skipped -/

/-- What follows the first occurrence of a token. -/
def after? (token : List Char) : List Char → Option (List Char)
  | [] => none
  | c :: cs =>
    if token.isPrefixOf (c :: cs) then some ((c :: cs).drop token.length) else after? token cs

/-- The token that ends a comment or an instruction, if the text starts with one. -/
def skippedEnd? (cs : List Char) : Option (List Char) :=
  if "<?".toList.isPrefixOf cs then some "?>".toList
  else if "<!--".toList.isPrefixOf cs then some "-->".toList
  else none

/-- Skip white space, comments and instructions. -/
def skip : Nat → List Char → Answer (List Char)
  | 0, cs => .ok cs
  | fuel + 1, cs =>
    let cs := Text.trimStart cs
    match skippedEnd? cs with
    | none => .ok cs
    | some token =>
      match after? token cs with
      | some cs => skip fuel cs
      | none => malformed ("unterminated `" ++ rest cs ++ "`")

/-! ### Entities -/

/-- The entities with names. -/
def namedEntities : List (String × Char) :=
  [("lt", '<'), ("gt", '>'), ("amp", '&'), ("quot", '"'), ("apos", '\'')]

/-- The character with a given code point. -/
def charOf? (n : Nat) : Option Char :=
  if n.isValidChar then some (Char.ofNat n) else none

/-- The number of an entity, hexadecimal or decimal. -/
def entityNumber? : List Char → Option Nat
  | '#' :: 'x' :: cs => (Text.readNatural 16 (2 ^ 32 - 1) cs).toOption
  | '#' :: cs => (Text.readNatural 10 (2 ^ 32 - 1) cs).toOption
  | _ => none

/-- The character of an entity. -/
def entity? (cs : List Char) : Option Char :=
  namedEntities.lookup (String.ofList cs) <|> (entityNumber? cs).bind charOf?

/-- Replace the entities in the rest of a text. -/
def decodeFrom (whole : List Char) : Nat → List Char → Answer (List Char)
  | _, [] => .ok []
  | 0, _ => .ok []
  | fuel + 1, c :: cs =>
    if c = '&' then
      match cs.span (· != ';') with
      | (_, []) => malformed ("unterminated entity in `" ++ String.ofList whole ++ "`")
      | (name, _ :: cs) =>
        match entity? name with
        | some c => do return c :: (← decodeFrom whole fuel cs)
        | none =>
          malformed <|
            "unknown entity `&" ++ String.ofList name ++ ";` in `" ++ String.ofList whole ++ "`"
    else do return c :: (← decodeFrom whole fuel cs)

/-- Replace the entities in a text. -/
def decode (cs : List Char) : Answer (List Char) :=
  decodeFrom cs cs.length cs

/-! ### Elements -/

/-- Characters of names. -/
def isNameChar (c : Char) : Bool :=
  Text.isAlphanumeric c || c == '-' || c == '_' || c == '.' || c == ':'

/-- A value in quotes. -/
def readQuoted (element key : String) : List Char → Answer (String × List Char)
  | quote :: cs =>
    if quote = '"' ∨ quote = '\'' then do
      let (value, cs) := cs.span (· != quote)
      let cs ← expect (String.singleton quote) cs
      return (String.ofList (← decode value), cs)
    else unquoted
  | [] => unquoted
where
  /-- The failure of a value without quotes. -/
  unquoted : Answer (String × List Char) :=
    malformed ("expected a quoted value for `" ++ key ++ "` in `<" ++ element ++ ">`")

/-- One attribute. -/
def readAttribute (element : String) (cs : List Char) :
    Answer ((String × String) × List Char) := do
  let (key, after) := cs.span isNameChar
  if key.isEmpty then
    malformed ("unexpected input in `<" ++ element ++ ">` at `" ++ rest cs ++ "`")
  let key := String.ofList key
  let cs ← expect "=" (Text.trimStart after)
  let (value, cs) ← readQuoted element key (Text.trimStart cs)
  return ((key, value), cs)

/-- The attributes of an element up to the end of its first tag, and whether it closes
itself. -/
def readAttributes (element : String) :
    Nat → List Char → Answer ((List (String × String) × Bool) × List Char)
  | 0, _ => .ok (([], true), [])
  | fuel + 1, cs =>
    match Text.trimStart cs with
    | '/' :: '>' :: cs => .ok (([], true), cs)
    | '>' :: cs => .ok (([], false), cs)
    | cs => do
      let (a, cs) ← readAttribute element cs
      let ((as, closed), cs) ← readAttributes element fuel cs
      return ((a :: as, closed), cs)

/-- The rest of a last tag, which has to bear the name of the element. -/
def readClosing (element : String) (cs : List Char) : Answer (List Char) := do
  let (name, cs) := cs.span isNameChar
  if String.ofList name ≠ element then
    malformed ("`<" ++ element ++ ">` closed by `</" ++ String.ofList name ++ ">`")
  expect ">" (Text.trimStart cs)

mutual

/-- An element at the start of a text. -/
def read : Nat → List Char → Answer (Element × List Char)
  | 0, _ => malformed "expected an element"
  | fuel + 1, cs => do
    let cs ← expect "<" cs
    let (name, after) := cs.span isNameChar
    if name.isEmpty then malformed ("expected an element name at `" ++ rest cs ++ "`")
    let name := String.ofList name
    let ((attributes, closed), cs) ← readAttributes name (after.length + 1) after
    if closed then return (⟨name, attributes, [], ""⟩, cs)
    let ((children, text), cs) ← readContent fuel name cs
    return (⟨name, attributes, children, String.ofList (Text.trimChars text)⟩, cs)

/-- The children and the text of an element up to the end of its last tag. -/
def readContent : Nat → String → List Char →
    Answer ((List Element × List Char) × List Char)
  | 0, _, _ => malformed "expected an element"
  | fuel + 1, element, cs => do
    match ← skip cs.length cs with
    | '<' :: '/' :: cs => return (([], []), ← readClosing element cs)
    | '<' :: cs =>
      let (child, cs) ← read fuel ('<' :: cs)
      let ((children, text), cs) ← readContent fuel element cs
      return ((child :: children, text), cs)
    | [] => malformed ("unterminated `<" ++ element ++ ">`")
    | cs =>
      let (text, cs) := cs.span (· != '<')
      let text ← decode text
      let ((children, more), cs) ← readContent fuel element cs
      return ((children, text ++ more), cs)

end

/-- The mark of the byte order, which may stand before a text. -/
def byteOrderMark : Char := '\uFEFF'

/-- The element that makes up a text. -/
def ofText (s : String) : Answer Element := do
  let cs := s.toList.dropWhile (· == byteOrderMark)
  let cs ← skip cs.length cs
  let (e, cs) ← read (cs.length + 1) cs
  let cs ← skip cs.length cs
  if !(Text.trimChars cs).isEmpty then
    malformed ("unexpected content after `</fetch>`: `" ++ rest cs ++ "`")
  return e

/-! ### Attributes -/

/-- The value of the first attribute with a name, ignoring ASCII case. -/
def attribute? (e : Element) (name : String) : Option String :=
  (e.attributes.find? fun a => Text.eqIgnoreCase a.1 name).map Prod.snd

/-- The value of an attribute that has to be there. -/
def required (e : Element) (name : String) : Answer String :=
  match e.attribute? name with
  | some value => .ok value
  | none => malformed ("`<" ++ e.name ++ ">` is missing the `" ++ name ++ "` attribute")

/-- Whether an attribute says yes. -/
def flag (e : Element) (name : String) : Bool :=
  (e.attribute? name).any fun v => Text.eqIgnoreCase v "true" || v == "1"

/-- The number of an attribute, if it is there. -/
def number? (e : Element) (name : String) : Answer (Option Nat) :=
  match e.attribute? name with
  | none => .ok none
  | some value =>
    match Text.readNat32 (Text.trim value) with
    | .ok n => .ok (some n)
    | .error fault =>
      malformed <|
        "invalid `" ++ name ++ "` value `" ++ value ++ "` on `<" ++ e.name ++ ">`: " ++
          fault.message

end RecordService.Element
