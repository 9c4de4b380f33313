import RecordService.Text.LowerCase

namespace RecordService.Text

/-!
# Patterns with wildcards

In a pattern `%` stands for any text and `_` for any character. Letter case does not count.

* `like`: whether a text fits a pattern.
* `fits`: the search, which goes back to the latest `%` only. A character of the text that is
  itself a `%` is taken for the `%` of the pattern and does not make it a wildcard.
-/

/-- Try a search at every place of a text from left to right. The search gets what to do when it
does not succeed at its place. -/
def fitsSomewhere (search : (Unit → Bool) → List Char → Bool) : List Char → Bool
  | [] => search (fun _ => false) []
  | c :: cs => search (fun _ => fitsSomewhere search cs) (c :: cs)

/-- Whether a text fits a pattern. Where it does not, `back` has the answer of the places that
the latest `%` has left. -/
def fits : List Char → (Unit → Bool) → List Char → Bool
  | pattern, _, [] => pattern.all (· == '%')
  | [], back, _ :: _ => back ()
  | p :: ps, back, c :: cs =>
    if p == '_' || p == c then fits ps back cs
    else if p == '%' then fitsSomewhere (fits ps) (c :: cs)
    else back ()

/-- Whether a text fits a pattern, letter case aside. -/
def like (text pattern : String) : Bool :=
  fits (lowerChars pattern.toList) (fun _ => false) (lowerChars text.toList)

end RecordService.Text
