import RecordService.Text.Blank

namespace RecordService.Text

/-!
# Cutting texts

Long texts are cut in messages at a number of bytes of their UTF-8 form, never inside a
character. A cut text loses the white space before the cut and gains an ellipsis.
-/

/-- The longest start of a text that takes at most `n` bytes. -/
def takeBytes : Nat → List Char → List Char
  | _, [] => []
  | n, c :: cs => if c.utf8Size ≤ n then c :: takeBytes (n - c.utf8Size) cs else []

/-- The head of a text of at most `max` bytes and the tail that marks a cut. -/
def cutAt (s : String) (max : Nat) : String × String :=
  if s.utf8ByteSize ≤ max then (s, "")
  else (String.ofList (trimEnd (takeBytes max s.toList)), "...")

/-- Bytes kept of a text that is quoted in a message. -/
def quotedBytes : Nat := 497

/-- A text as messages quote it. -/
def cutLong (s : String) : String :=
  let (head, tail) := cutAt s quotedBytes
  head ++ tail

/-- The longest start of a text whose characters satisfy `p`, and the rest. -/
def consumeWhile (p : Char → Bool) (s : String) : String × String :=
  let (head, rest) := s.toList.span p
  (String.ofList head, String.ofList rest)

end RecordService.Text
