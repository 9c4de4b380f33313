namespace RecordService.Text

/-!
# Grouped digits

The digits of a long number are set off in groups of three, counted from the right.

* `groupDigits`: the digits of an integral part, with commas.
* `groupThousands`: an integral part with an optional minus sign.
* `grouped`: a number with an optional point; what follows the point stays as it is.
-/

/-- Digits with a comma before every group of three that is not the first. -/
def groupDigits : List Char → List Char
  | [] => []
  | c :: cs =>
    if cs ≠ [] ∧ cs.length % 3 = 0 then c :: ',' :: groupDigits cs else c :: groupDigits cs

/-- Group the digits of an integral part, a minus sign standing aside. -/
def groupThousands : List Char → List Char
  | '-' :: ds => '-' :: groupDigits ds
  | ds => groupDigits ds

/-- Group the integral part of a number. -/
def grouped (s : String) : String :=
  let (whole, rest) := s.toList.span (· != '.')
  String.ofList (groupThousands whole ++ rest)

end RecordService.Text
