namespace RecordService

/-!
# Markup

Trees of XML elements, as far as the dialect of queries has them: an element has attributes,
child elements and text.

* `Element.attribute?`: the value of an attribute, found ignoring ASCII case.
* `Element.print`, `Element.printIndented`: the text of a tree, on one line or indented.
-/

/-- An element. -/
structure Element where
  name : String
  attributes : List (String × String)
  children : List Element
  text : String
  deriving Repr, BEq

namespace Element

/-- An element of attributes alone. -/
def leaf (name : String) (attributes : List (String × String)) : Element :=
  ⟨name, attributes, [], ""⟩

/-! ### Printing -/

/-- Elements whose empty form closes itself. -/
def closesItself (name : String) : Bool :=
  ["all-attributes", "attribute", "order", "condition", "link-entity"].contains name

/-- Elements that hold text instead of elements. -/
def holdsText (name : String) : Bool :=
  name == "value"

/-- The characters that stand for one character of a text. -/
def escapeChar (c : Char) : List Char :=
  if c = '&' then "&amp;".toList
  else if c = '<' then "&lt;".toList
  else if c = '>' then "&gt;".toList
  else if c = '"' then "&quot;".toList
  else if c = '\'' then "&apos;".toList
  else [c]

/-- A text with its special characters escaped. -/
def escape (s : String) : List Char :=
  s.toList.flatMap escapeChar

/-- An attribute behind a blank. -/
def attributeChars (a : String × String) : List Char :=
  ' ' :: a.1.toList ++ '=' :: '"' :: escape a.2 ++ ['"']

/-- A new line with two blanks for each level, nothing on a single line. -/
def lineBreak (indented : Bool) (depth : Nat) : List Char :=
  if indented then '\n' :: List.replicate (2 * depth) ' ' else []

/-- The end of an element. -/
def closing (name : String) : List Char :=
  '<' :: '/' :: name.toList ++ ['>']

mutual

/-- The text of an element that stands at a depth. -/
def chars (indented : Bool) (depth : Nat) : Element → List Char
  | ⟨name, attributes, children, text⟩ =>
    let start := '<' :: name.toList ++ attributes.flatMap attributeChars
    if children.isEmpty && closesItself name then start ++ ['/', '>']
    else
      start ++ '>' :: escape text ++ childrenChars indented (depth + 1) children ++
        (if holdsText name then [] else lineBreak indented depth) ++ closing name

/-- The texts of elements, each on its line. -/
def childrenChars (indented : Bool) (depth : Nat) : List Element → List Char
  | [] => []
  | e :: es => lineBreak indented depth ++ chars indented depth e ++ childrenChars indented depth es

end

/-- The text of a tree on one line. -/
def print (e : Element) : String :=
  String.ofList (e.chars false 0)

/-- The text of a tree with a line for each element. -/
def printIndented (e : Element) : String :=
  String.ofList (e.chars true 0)

end Element

end RecordService
