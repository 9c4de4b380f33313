import RecordService.Proofs.Answer
import RecordService.Proofs.Markup.Escaping
import Mathlib.Data.List.Basic
import Mathlib.Data.List.DropRight

namespace RecordService.Element

/-!
# Markup is read as it was printed

The reader gets back every tree of elements from its text, on one line or indented, but for the
white space around the texts in it.

* `IsName`, `HasText`: the trees that have a text.
* `trimmed`, `WellFormed`: trees without white space around their texts.
* `readAttributes_attributeChars`: the first tag of an element.
* `read_chars`, `readContent_childrenChars`: an element and the children of one.
* `ofText_chars`: the text of any tree is read as the trimmed tree.
* `ofText_print`, `ofText_printIndented`: the text of a well-formed tree.
-/

/-! ### Names -/

/-- Names of elements and attributes. -/
def IsName (s : String) : Prop :=
  s.toList ≠ [] ∧ ∀ c ∈ s.toList, isNameChar c = true

instance (s : String) : Decidable (IsName s) :=
  decidable_of_iff (s.toList ≠ [] ∧ s.toList.all isNameChar = true)
    (and_congr_right fun _ => List.all_eq_true)

/-- A name ends before a character that names do not have. -/
theorem IsName.span {s : String} (hs : IsName s) {c : Char} {tail : List Char}
    (hc : isNameChar c = false) : (s.toList ++ c :: tail).span isNameChar = (s.toList, c :: tail) :=
  Text.span_append hs.2 hc

/-- A name has a first character, which is none of the marks of markup. -/
theorem IsName.head {s : String} (hs : IsName s) :
    ∃ c cs, s.toList = c :: cs ∧ isNameChar c = true := by
  cases hlist : s.toList with
  | nil => exact absurd hlist hs.1
  | cons c cs => exact ⟨c, cs, rfl, hs.2 c (hlist ▸ List.mem_cons_self)⟩

/-- Neither white space nor the marks around a name can stand in one, so that they end it. -/
theorem isNameChar_marks :
    isNameChar ' ' = false ∧ isNameChar '=' = false ∧ isNameChar '/' = false ∧
      isNameChar '>' = false ∧ isNameChar '?' = false ∧ isNameChar '!' = false := by
  decide +kernel

/-! ### White space -/

/-- The code points of white space. -/
def blankPoints : List Nat :=
  [0x9, 0xA, 0xB, 0xC, 0xD, 0x20, 0x85, 0xA0, 0x1680, 0x2000, 0x2001, 0x2002, 0x2003, 0x2004,
   0x2005, 0x2006, 0x2007, 0x2008, 0x2009, 0x200A, 0x2028, 0x2029, 0x202F, 0x205F, 0x3000]

/-- Names have no white space. -/
theorem isBlank_of_isNameChar {c : Char} (h : isNameChar c = true) : Text.isBlank c = false := by
  -- white space is a finite list of characters, each of which is looked up
  have hnone : ∀ n ∈ blankPoints, isNameChar (Char.ofNat n) = false := by decide +kernel
  by_contra hblank
  have hpoint : c.toNat ∈ blankPoints := by
    simp only [Bool.not_eq_false, Text.isBlank, Bool.or_eq_true, Bool.and_eq_true,
      decide_eq_true_eq, beq_iff_eq] at hblank
    simp only [blankPoints, List.mem_cons, List.not_mem_nil]
    omega
  have hname := hnone _ hpoint
  rw [Char.ofNat_toNat] at hname
  exact Bool.false_ne_true (hname.symm.trans h)

/-- White space in front of a text is dropped. -/
theorem trimStart_blank {blank cs : List Char} (h : ∀ c ∈ blank, Text.isBlank c = true) :
    Text.trimStart (blank ++ cs) = Text.trimStart cs :=
  List.dropWhile_append_of_pos h

/-- A text that starts with anything else loses nothing at its start. -/
theorem trimStart_cons {c : Char} {cs : List Char} (h : Text.isBlank c = false) :
    Text.trimStart (c :: cs) = c :: cs :=
  List.dropWhile_cons_of_neg (by simp [h])

/-- Once the white space at the start of a text is dropped, there is no more to drop. -/
theorem trimStart_trimStart (cs : List Char) :
    Text.trimStart (Text.trimStart cs) = Text.trimStart cs :=
  List.dropWhile_idempotent Text.isBlank cs

/-- The break between two lines is white space, however deep the line is indented. -/
theorem isBlank_lineBreak {indented : Bool} {depth : Nat} :
    ∀ c ∈ lineBreak indented depth, Text.isBlank c = true := by
  intro c hc
  unfold lineBreak at hc
  split at hc
  · rcases List.mem_cons.1 hc with rfl | hc
    · decide
    · rw [List.eq_of_mem_replicate hc]
      decide
  · exact nomatch hc

/-! ### Attributes -/

/-- A single character that is expected is taken off the text. -/
theorem expect_of_cons {c : Char} {cs : List Char} :
    expect (String.singleton c) (c :: cs) = .ok cs := by
  have hlist : (String.singleton c).toList = [c] := by simp
  have hlength : (String.singleton c).length = 1 := by simp
  unfold expect
  rw [hlist, hlength]
  simp

/-- A value in quotes is read as it was written. -/
theorem readQuoted_escape (element key value : String) (tail : List Char) :
    readQuoted element key ('"' :: escape value ++ '"' :: tail) = .ok (value, tail) := by
  have hspan : (escape value ++ '"' :: tail).span (· != '"') = (escape value, '"' :: tail) :=
    Text.span_append (fun d hd => bne_iff_ne.2 (escape_spec hd).2) (by decide)
  unfold readQuoted
  simp only [List.cons_append, true_or, if_true, hspan, expect_of_cons, decode_escape]
  exact congrArg Except.ok (Prod.ext String.ofList_toList rfl)

/-- An attribute is read as it was written. -/
theorem readAttribute_attributeChars (element : String) {a : String × String} (ha : IsName a.1)
    (tail : List Char) :
    readAttribute element (a.1.toList ++ '=' :: '"' :: escape a.2 ++ '"' :: tail) =
      .ok (a, tail) := by
  have hspan : (a.1.toList ++ '=' :: '"' :: escape a.2 ++ '"' :: tail).span isNameChar =
      (a.1.toList, '=' :: '"' :: escape a.2 ++ '"' :: tail) := by
    rw [List.append_assoc]
    exact ha.span isNameChar_marks.2.1
  have hne : a.1.toList.isEmpty = false := by simpa using ha.1
  have hequals : Text.trimStart ('=' :: '"' :: escape a.2 ++ '"' :: tail) =
      '=' :: '"' :: escape a.2 ++ '"' :: tail := trimStart_cons (by decide)
  have hquote : Text.trimStart ('"' :: escape a.2 ++ '"' :: tail) =
      '"' :: escape a.2 ++ '"' :: tail := trimStart_cons (by decide)
  have hexpect : expect "=" ('=' :: '"' :: escape a.2 ++ '"' :: tail) =
      .ok ('"' :: escape a.2 ++ '"' :: tail) := expect_of_cons (c := '=')
  unfold readAttribute
  simp only [hspan, hne, hequals, hexpect, Bool.false_eq_true, if_false]
  show (readQuoted element (String.ofList a.1.toList) (Text.trimStart _) >>= _) = _
  rw [hquote, readQuoted_escape, String.ofList_toList]
  rfl

/-- What ends the first tag of an element: a slash if the element closes itself. -/
def tagEnd (closed : Bool) : List Char :=
  if closed then ['/', '>'] else ['>']

/-- An attribute that does not stand at the end of a tag is read before the others. -/
theorem readAttributes_of_attribute {element : String} {fuel : Nat} {cs tail : List Char} {c : Char}
    {a : String × String} (htrim : Text.trimStart cs = c :: tail) (hc : isNameChar c = true)
    {after : List Char} (ha : readAttribute element (c :: tail) = .ok (a, after)) :
    readAttributes element (fuel + 1) cs =
      (readAttributes element fuel after).map fun r => ((a :: r.1.1, r.1.2), r.2) := by
  have hslash : c ≠ '/' := by
    rintro rfl
    exact Bool.false_ne_true (isNameChar_marks.2.2.1.symm.trans hc)
  have hmark : c ≠ '>' := by
    rintro rfl
    exact Bool.false_ne_true (isNameChar_marks.2.2.2.1.symm.trans hc)
  rw [readAttributes, htrim]
  split
  · rename_i heq
    exact absurd (List.cons.inj heq).1 hslash
  · rename_i heq
    exact absurd (List.cons.inj heq).1 hmark
  · rw [ha]
    simp only [bind, Except.bind]
    cases readAttributes element fuel after <;> rfl

/-- The attributes of an element are read as they were written. -/
theorem readAttributes_attributeChars (element : String) {as : List (String × String)}
    (has : ∀ a ∈ as, IsName a.1) (closed : Bool) (tail : List Char) {fuel : Nat}
    (hfuel : as.length < fuel) :
    readAttributes element fuel (as.flatMap attributeChars ++ (tagEnd closed ++ tail)) =
      .ok ((as, closed), tail) := by
  induction as generalizing fuel with
  | nil =>
    obtain ⟨fuel, rfl⟩ : ∃ n, fuel = n + 1 := ⟨fuel - 1, by omega⟩
    cases closed with
    | true =>
      have hslash : Text.trimStart ('/' :: '>' :: tail) = '/' :: '>' :: tail :=
        trimStart_cons (by decide)
      show readAttributes element (fuel + 1) ('/' :: '>' :: tail) = _
      rw [readAttributes, hslash]
      rfl
    | false =>
      have hmark : Text.trimStart ('>' :: tail) = '>' :: tail := trimStart_cons (by decide)
      show readAttributes element (fuel + 1) ('>' :: tail) = _
      rw [readAttributes, hmark]
      rfl
  | cons a as ih =>
    obtain ⟨fuel, rfl⟩ : ∃ n, fuel = n + 1 := ⟨fuel - 1, by omega⟩
    have ha : IsName a.1 := has a List.mem_cons_self
    obtain ⟨c, cs, hkey, hc⟩ := ha.head
    have hrest := @ih (fun b hb => has b (List.mem_cons_of_mem _ hb)) fuel
      (by rw [List.length_cons] at hfuel; omega)
    -- the blank before the attribute is skipped, and its name begins
    have htrim : Text.trimStart ((a :: as).flatMap attributeChars ++ (tagEnd closed ++ tail)) =
        a.1.toList ++ '=' :: '"' :: escape a.2 ++ '"' ::
          (as.flatMap attributeChars ++ (tagEnd closed ++ tail)) := by
      have hblank : ∀ d ∈ [' '], Text.isBlank d = true := by
        intro d hd
        rw [List.mem_singleton.1 hd]
        decide
      have hfirst : Text.isBlank c = false := isBlank_of_isNameChar hc
      simp only [List.flatMap_cons, attributeChars, List.cons_append, List.append_assoc,
        List.nil_append, hkey]
      exact (trimStart_blank hblank).trans (trimStart_cons hfirst)
    rw [hkey] at htrim
    have hone := readAttribute_attributeChars element ha
      (as.flatMap attributeChars ++ (tagEnd closed ++ tail))
    rw [hkey] at hone
    rw [readAttributes_of_attribute htrim hc hone, hrest]
    rfl

/-! ### Tags -/

/-- After the name of an element there is no character of names. -/
theorem after_name (as : List (String × String)) (closed : Bool) (body : List Char) :
    ∃ c cs, as.flatMap attributeChars ++ (tagEnd closed ++ body) = c :: cs ∧
      isNameChar c = false := by
  cases as with
  | cons a as => exact ⟨' ', _, rfl, isNameChar_marks.1⟩
  | nil =>
    cases closed with
    | true => exact ⟨'/', _, rfl, isNameChar_marks.2.2.1⟩
    | false => exact ⟨'>', _, rfl, isNameChar_marks.2.2.2.1⟩

/-- There is at least one character for each attribute, so that the length of a text bounds their
number. -/
theorem length_le_flatMap (as : List (String × String)) :
    as.length ≤ (as.flatMap attributeChars).length := by
  induction as with
  | nil => exact Nat.le_refl _
  | cons a as ih =>
    have hone : 1 ≤ (attributeChars a).length := by simp [attributeChars]
    rw [List.flatMap_cons, List.length_append, List.length_cons]
    omega

/-- The first tag of an element is read before what it contains. -/
theorem read_tag {name : String} (hname : IsName name) {as : List (String × String)}
    (has : ∀ a ∈ as, IsName a.1) (closed : Bool) (body : List Char) (fuel : Nat) :
    read (fuel + 1)
        ('<' :: (name.toList ++ (as.flatMap attributeChars ++ (tagEnd closed ++ body)))) =
      if closed then .ok (⟨name, as, [], ""⟩, body)
      else (readContent fuel name body).map fun r =>
        (⟨name, as, r.1.1, String.ofList (Text.trimChars r.1.2)⟩, r.2) := by
  have hspan : (name.toList ++ (as.flatMap attributeChars ++ (tagEnd closed ++ body))).span
      isNameChar = (name.toList, as.flatMap attributeChars ++ (tagEnd closed ++ body)) := by
    obtain ⟨c, cs, heq, hc⟩ := after_name as closed body
    rw [heq]
    exact hname.span hc
  have hne : name.toList.isEmpty = false := by simpa using hname.1
  have hread := @readAttributes_attributeChars name as has closed body
    ((as.flatMap attributeChars ++ (tagEnd closed ++ body)).length + 1) (by
      have hle := length_le_flatMap as
      rw [List.length_append]
      omega)
  have hexpect : ∀ cs, expect "<" ('<' :: cs) = .ok cs := fun cs => expect_of_cons (c := '<')
  simp only [read, hexpect, Answer.ok_bind, hspan, hne, Bool.false_eq_true, if_false,
    String.ofList_toList, hread]
  cases closed with
  | true => rfl
  | false =>
    cases readContent fuel name body with
    | error e => rfl
    | ok r => rfl

/-- The last tag of an element is read if it has the name of the first. -/
theorem readClosing_closing {name : String} (hname : IsName name) (tail : List Char) :
    readClosing name (name.toList ++ '>' :: tail) = .ok tail := by
  have hspan : (name.toList ++ '>' :: tail).span isNameChar = (name.toList, '>' :: tail) :=
    hname.span isNameChar_marks.2.2.2.1
  have hmark : Text.trimStart ('>' :: tail) = '>' :: tail := trimStart_cons (by decide)
  have hexpect : expect ">" ('>' :: tail) = .ok tail := expect_of_cons (c := '>')
  unfold readClosing
  simp only [hspan, String.ofList_toList, ne_eq, not_true_eq_false, if_false, hmark]
  exact hexpect

/-! ### Contents -/

/-- White space is skipped up to something that is not skipped itself. -/
theorem skip_eq {blank : List Char} (hblank : ∀ c ∈ blank, Text.isBlank c = true)
    (cs : List Char) (htrim : Text.trimStart cs = cs) (hend : skippedEnd? cs = none) :
    skip (blank ++ cs).length (blank ++ cs) = .ok cs := by
  cases hlength : (blank ++ cs).length with
  | zero =>
    obtain ⟨rfl, rfl⟩ := List.append_eq_nil_iff.1 (List.length_eq_zero_iff.1 hlength)
    rfl
  | succ fuel =>
    rw [skip, trimStart_blank hblank, htrim]
    simp only [hend]

/-- Tags are not skipped. -/
theorem skippedEnd?_tag {c : Char} {cs : List Char} (h : c = '/' ∨ isNameChar c = true) :
    skippedEnd? ('<' :: c :: cs) = none := by
  have hquestion : c ≠ '?' := by
    rintro rfl
    rcases h with h | h
    · exact absurd h (by decide)
    · exact Bool.false_ne_true (isNameChar_marks.2.2.2.2.1.symm.trans h)
  have hbang : c ≠ '!' := by
    rintro rfl
    rcases h with h | h
    · exact absurd h (by decide)
    · exact Bool.false_ne_true (isNameChar_marks.2.2.2.2.2.symm.trans h)
  have hinstruction : "<?".toList.isPrefixOf ('<' :: c :: cs) = false := by
    show (('<' == '<') && (('?' == c) && _)) = false
    simp [Ne.symm hquestion]
  have hcomment : "<!--".toList.isPrefixOf ('<' :: c :: cs) = false := by
    show (('<' == '<') && (('!' == c) && _)) = false
    simp [Ne.symm hbang]
  simp only [skippedEnd?, hinstruction, hcomment, Bool.false_eq_true, if_false]

/-- A child is read before the rest of the content. -/
theorem readContent_child {element : String} {fuel : Nat} {blank cs : List Char} {c : Char}
    (hblank : ∀ d ∈ blank, Text.isBlank d = true) (hc : isNameChar c = true) {child : Element}
    {after : List Char} (hchild : read fuel ('<' :: c :: cs) = .ok (child, after)) :
    readContent (fuel + 1) element (blank ++ '<' :: c :: cs) =
      (readContent fuel element after).map fun r => ((child :: r.1.1, r.1.2), r.2) := by
  have hslash : c ≠ '/' := by
    rintro rfl
    exact Bool.false_ne_true (isNameChar_marks.2.2.1.symm.trans hc)
  have hskip := skip_eq hblank ('<' :: c :: cs) (trimStart_cons (by decide))
    (skippedEnd?_tag (.inr hc))
  rw [readContent, hskip, Answer.ok_bind]
  split
  · rename_i heq
    exact absurd (List.cons.inj (List.cons.inj heq).2).1 hslash
  · rename_i heq
    cases (List.cons.inj heq).2
    rw [hchild, Answer.ok_bind]
    dsimp only
    cases readContent fuel element after with
    | error e => rfl
    | ok r => rfl
  · rename_i heq
    exact nomatch heq
  · rename_i hne _
    exact (hne (c :: cs) rfl).elim

/-- A content ends at the last tag. -/
theorem readContent_closing {name : String} (hname : IsName name) {blank : List Char}
    (hblank : ∀ d ∈ blank, Text.isBlank d = true) (tail : List Char) (fuel : Nat) :
    readContent (fuel + 1) name (blank ++ (closing name ++ tail)) = .ok (([], []), tail) := by
  have hclosing : closing name ++ tail = '<' :: '/' :: (name.toList ++ '>' :: tail) := by
    simp [closing]
  have hskip := skip_eq hblank ('<' :: '/' :: (name.toList ++ '>' :: tail))
    (trimStart_cons (by decide)) (skippedEnd?_tag (.inl rfl))
  rw [hclosing, readContent, hskip, Answer.ok_bind]
  show (readClosing name (name.toList ++ '>' :: tail) >>= _) = _
  rw [readClosing_closing hname]
  rfl

/-- An escaped text begins like the text, or with the mark of an entity. -/
theorem escape_head {text : String} (htext : text.toList ≠ [])
    (htrim : Text.trimStart text.toList = text.toList) :
    ∃ c cs, escape text = c :: cs ∧ Text.isBlank c = false ∧ c ≠ '<' := by
  cases hlist : text.toList with
  | nil => exact absurd hlist htext
  | cons c cs =>
    have hblank : Text.isBlank c = false := by
      rw [hlist] at htrim
      by_contra hc
      have hdrop : Text.trimStart (c :: cs) = Text.trimStart cs :=
        List.dropWhile_cons_of_pos (by simpa using hc)
      have hlength : (Text.trimStart cs).length ≤ cs.length := (List.dropWhile_suffix _).length_le
      rw [← hdrop, htrim, List.length_cons] at hlength
      omega
    have hescape : escape text = escapeChar c ++ cs.flatMap escapeChar := by
      rw [escape, hlist, List.flatMap_cons]
    rcases escapeChar_cases c with ⟨name, heq, -, -⟩ | ⟨heq, hplain⟩
    · rw [heq] at hescape
      exact ⟨'&', _, hescape, by decide, by decide⟩
    · rw [heq] at hescape
      exact ⟨c, _, hescape, hblank, hplain.2.1⟩

/-- White space stands for itself. -/
theorem escapeChar_blank {c : Char} (h : Text.isBlank c = true) : escapeChar c = [c] := by
  have hne : ∀ d, Text.isBlank d = false → c ≠ d := by
    rintro d hd rfl
    exact Bool.false_ne_true (hd.symm.trans h)
  rw [escapeChar, if_neg (hne _ (by decide)), if_neg (hne _ (by decide)),
    if_neg (hne _ (by decide)), if_neg (hne _ (by decide)), if_neg (hne _ (by decide))]

/-- An escaped text is the white space at its start and the escaped rest. -/
theorem escape_eq_append (text : String) :
    ∃ blank, (∀ c ∈ blank, Text.isBlank c = true) ∧
      escape text = blank ++ escape (String.ofList (Text.trimStart text.toList)) := by
  refine ⟨text.toList.takeWhile Text.isBlank, fun c hc => List.mem_takeWhile_imp hc, ?_⟩
  have hblank : (text.toList.takeWhile Text.isBlank).flatMap escapeChar =
      text.toList.takeWhile Text.isBlank := by
    rw [List.flatMap_congr fun c hc => escapeChar_blank (List.mem_takeWhile_imp hc)]
    exact List.flatMap_singleton' _
  conv_lhs => rw [escape, ← List.takeWhile_append_dropWhile (p := Text.isBlank) (l := text.toList),
    List.flatMap_append, hblank]
  rw [escape, String.toList_ofList]
  rfl

/-- A text that does not begin with white space is read before the rest of the content. -/
theorem readContent_text {element text : String} {blank : List Char}
    (hblank : ∀ d ∈ blank, Text.isBlank d = true) (htext : text.toList ≠ [])
    (htrim : Text.trimStart text.toList = text.toList) (tail : List Char) (fuel : Nat) :
    readContent (fuel + 1) element (blank ++ (escape text ++ '<' :: tail)) =
      (readContent fuel element ('<' :: tail)).map fun r =>
        ((r.1.1, text.toList ++ r.1.2), r.2) := by
  -- the text begins with something that is neither skipped nor the mark of a tag
  obtain ⟨c, cs, hescape, hfirst, hc⟩ := escape_head htext htrim
  have hspan : (escape text ++ '<' :: tail).span (· != '<') = (escape text, '<' :: tail) :=
    Text.span_append (fun d hd => bne_iff_ne.2 (escape_spec hd).1) (by decide)
  have hend : skippedEnd? (escape text ++ '<' :: tail) = none := by
    have hne : ('<' == c) = false := beq_eq_false_iff_ne.2 (Ne.symm hc)
    rw [hescape]
    show (if (('<' == c) && _) = true then _ else if (('<' == c) && _) = true then _ else _) = _
    simp only [hne, Bool.false_and, Bool.false_eq_true, if_false]
  have hskip := skip_eq hblank (escape text ++ '<' :: tail)
    (by rw [hescape]; exact trimStart_cons hfirst) hend
  rw [readContent, hskip, Answer.ok_bind]
  split
  · rename_i heq
    rw [hescape] at heq
    exact absurd (List.cons.inj heq).1 hc
  · rename_i heq
    rw [hescape] at heq
    exact absurd (List.cons.inj heq).1 hc
  · rename_i heq
    rw [hescape] at heq
    exact nomatch heq
  · simp only [hspan, decode_escape, Answer.ok_bind]
    cases readContent fuel element ('<' :: tail) with
    | error e => rfl
    | ok r => rfl

/-- The content of an element that holds a text is the text without the white space at its start. -/
theorem readContent_escape {name : String} (hname : IsName name) (text : String)
    (tail : List Char) (fuel : Nat) :
    readContent (fuel + 2) name (escape text ++ (closing name ++ tail)) =
      .ok (([], Text.trimStart text.toList), tail) := by
  obtain ⟨blank, hblank, hescape⟩ := escape_eq_append text
  have hclosing : closing name = '<' :: '/' :: (name.toList ++ ['>']) := by simp [closing]
  rw [hescape, List.append_assoc]
  by_cases hempty : Text.trimStart text.toList = []
  · -- nothing but white space stands before the last tag
    rw [hempty]
    exact readContent_closing hname hblank tail (fuel + 1)
  · have hdone := @readContent_closing name hname [] nofun tail fuel
    have hlist : (String.ofList (Text.trimStart text.toList)).toList =
        Text.trimStart text.toList := String.toList_ofList
    have hbefore := @readContent_text name _ _ hblank (by rwa [hlist])
      (by rw [hlist, trimStart_trimStart]) ('/' :: (name.toList ++ ['>']) ++ tail) (fuel + 1)
    rw [List.nil_append] at hdone
    rw [← List.cons_append, ← hclosing, hdone, hlist] at hbefore
    rw [hbefore]
    simp only [Except.map, List.append_nil]

/-! ### Trees -/

/-- The trees that have a text: elements hold other elements, or a text. -/
inductive HasText : Element → Prop where
  | group {name : String} {attributes : List (String × String)} {children : List Element}
      (hname : IsName name) (hkeys : ∀ a ∈ attributes, IsName a.1)
      (hgroup : holdsText name = false) (hchildren : ∀ e ∈ children, HasText e) :
      HasText ⟨name, attributes, children, ""⟩
  | text {name : String} {attributes : List (String × String)} {text : String}
      (hname : IsName name) (hkeys : ∀ a ∈ attributes, IsName a.1)
      (htext : holdsText name = true) : HasText ⟨name, attributes, [], text⟩

mutual

/-- A tree without white space around its texts. -/
def trimmed : Element → Element
  | ⟨name, attributes, children, text⟩ =>
    ⟨name, attributes, trimmedAll children, Text.trim text⟩

/-- Trees without white space around their texts. -/
def trimmedAll : List Element → List Element
  | [] => []
  | e :: es => e.trimmed :: trimmedAll es

end

/-- Elements are trimmed one by one. -/
theorem trimmedAll_eq (es : List Element) : trimmedAll es = es.map trimmed := by
  induction es with
  | nil => rfl
  | cons e es ih => rw [trimmedAll, ih, List.map_cons]

/-- An element without text of its own is trimmed by trimming its children. -/
theorem trimmed_group (name : String) (attributes : List (String × String))
    (children : List Element) :
    (⟨name, attributes, children, ""⟩ : Element).trimmed =
      ⟨name, attributes, children.map trimmed, ""⟩ := by
  rw [trimmed, trimmedAll_eq]
  rfl

/-- Trimming leaves the name of an element. -/
@[simp] theorem name_trimmed (e : Element) : e.trimmed.name = e.name := by
  cases e
  rw [trimmed]

/-- The trees that are read as they are: no text has white space around it. -/
inductive WellFormed : Element → Prop where
  | group {name : String} {attributes : List (String × String)} {children : List Element}
      (hname : IsName name) (hkeys : ∀ a ∈ attributes, IsName a.1) (hgroup : holdsText name = false)
      (hchildren : ∀ e ∈ children, WellFormed e) : WellFormed ⟨name, attributes, children, ""⟩
  | text {name : String} {attributes : List (String × String)} {text : String}
      (hname : IsName name) (hkeys : ∀ a ∈ attributes, IsName a.1) (htext : holdsText name = true)
      (htrim : Text.trimChars text.toList = text.toList) : WellFormed ⟨name, attributes, [], text⟩

/-- A tree that is read as it is has a text. -/
theorem WellFormed.hasText {e : Element} (h : e.WellFormed) : e.HasText := by
  induction h with
  | group hname hkeys hgroup hchildren ih => exact .group hname hkeys hgroup ih
  | text hname hkeys htext htrim => exact .text hname hkeys htext

/-- A tree that is read as it is has nothing to trim. -/
theorem WellFormed.trimmed_eq {e : Element} (h : e.WellFormed) : e.trimmed = e := by
  induction h with
  | @group name attributes children hname hkeys hgroup hchildren ih =>
    rw [trimmed_group, List.map_congr_left ih, List.map_id']
  | @text name attributes text hname hkeys htext htrim =>
    rw [trimmed, trimmedAll, Text.trim, htrim, String.ofList_toList]

/-- A tree that trimming does not change is read as it is. -/
theorem HasText.wellFormed {e : Element} (h : e.HasText) (htrim : e.trimmed = e) :
    e.WellFormed := by
  induction h with
  | @group name attributes children hname hkeys hgroup hchildren ih =>
    rw [trimmed_group] at htrim
    have hmap : children.map trimmed = children.map id := by
      rw [List.map_id]
      exact (Element.mk.inj htrim).2.2.1
    exact .group hname hkeys hgroup fun e he => ih e he (List.map_inj_left.1 hmap e he)
  | @text name attributes text hname hkeys htext =>
    rw [trimmed] at htrim
    have htext' : Text.trim text = text := (Element.mk.inj htrim).2.2.2
    have hchars := congrArg String.toList htext'
    rw [Text.trim, String.toList_ofList] at hchars
    exact .text hname hkeys htext hchars

/-- An element with a text has a name that can stand in it. -/
theorem HasText.isName {e : Element} (h : e.HasText) : IsName e.name := by
  cases h with
  | group hname => exact hname
  | text hname => exact hname

/-- The text of an element from its first tag on. -/
theorem chars_eq (indented : Bool) (depth : Nat) (e : Element) :
    e.chars indented depth =
      '<' :: (e.name.toList ++ (e.attributes.flatMap attributeChars ++
        (tagEnd (e.children.isEmpty && closesItself e.name) ++
          if e.children.isEmpty && closesItself e.name then []
          else
            escape e.text ++ (childrenChars indented (depth + 1) e.children ++
              ((if holdsText e.name then [] else lineBreak indented depth) ++
                closing e.name))))) := by
  obtain ⟨name, attributes, children, text⟩ := e
  rw [chars]
  dsimp only
  cases children.isEmpty && closesItself name with
  | true => simp [tagEnd]
  | false => simp [tagEnd]

/-- An element begins with its name. -/
theorem HasText.chars_head {e : Element} (h : e.HasText) (indented : Bool) (depth : Nat) :
    ∃ c cs, e.chars indented depth = '<' :: c :: cs ∧ isNameChar c = true := by
  obtain ⟨c, cs, hname, hc⟩ := h.isName.head
  rw [chars_eq, hname]
  exact ⟨c, _, rfl, hc⟩

/-- That an element is read from its text, whatever follows, but for the white space around its
texts. -/
def IsReadTrimmed (e : Element) : Prop :=
  ∀ indented depth tail fuel, (e.chars indented depth).length ≤ fuel →
    read fuel (e.chars indented depth ++ tail) = .ok (e.trimmed, tail)

/-- The children of an element are read from their texts. -/
theorem readContent_childrenChars {es : List Element} (hes : ∀ e ∈ es, e.HasText)
    (hread : ∀ e ∈ es, e.IsReadTrimmed) {name : String} (hname : IsName name) (indented : Bool)
    (depth : Nat) {blank : List Char} (hblank : ∀ c ∈ blank, Text.isBlank c = true)
    (tail : List Char) (fuel : Nat)
    (hfuel : (childrenChars indented depth es ++ (blank ++ closing name)).length ≤ fuel) :
    readContent fuel name
        (childrenChars indented depth es ++ (blank ++ (closing name ++ tail))) =
      .ok ((es.map trimmed, []), tail) := by
  induction es generalizing fuel with
  | nil =>
    have hpos : 1 ≤ (closing name).length := by simp [closing]
    simp only [childrenChars, List.nil_append, List.length_append] at hfuel ⊢
    obtain ⟨fuel, rfl⟩ : ∃ n, fuel = n + 1 := ⟨fuel - 1, by omega⟩
    exact readContent_closing hname hblank tail fuel
  | cons e es ih =>
    have he : e.HasText := hes e List.mem_cons_self
    obtain ⟨c, cs, hchars, hc⟩ := he.chars_head indented depth
    have hlength : (e.chars indented depth).length = cs.length + 2 := by simp [hchars]
    simp only [childrenChars, List.append_assoc, List.length_append] at hfuel ⊢
    obtain ⟨fuel, rfl⟩ : ∃ n, fuel = n + 1 := ⟨fuel - 1, by omega⟩
    -- the first child is read by what is known of it, and the rest of the text by induction
    have hchild := hread e List.mem_cons_self indented depth
      (childrenChars indented depth es ++ (blank ++ (closing name ++ tail))) fuel (by
        have hpos : 1 ≤ (closing name).length := by simp [closing]
        omega)
    have hrest := ih (fun d hd => hes d (List.mem_cons_of_mem _ hd))
      (fun d hd => hread d (List.mem_cons_of_mem _ hd)) fuel (by
        simp only [List.length_append]
        omega)
    rw [hchars] at hchild ⊢
    rw [List.cons_append, List.cons_append] at hchild ⊢
    rw [readContent_child isBlank_lineBreak hc hchild, hrest]
    rfl

/-- **Elements.** A tree is read from its text, but for the white space around its texts. -/
theorem read_chars {e : Element} (h : e.HasText) : e.IsReadTrimmed := by
  induction h with
  | @group name attributes children hname hkeys hgroup hchildren ih =>
    intro indented depth tail fuel hfuel
    rw [trimmed_group]
    rw [chars_eq] at hfuel ⊢
    dsimp only at hfuel ⊢
    rw [hgroup] at hfuel ⊢
    obtain ⟨fuel, rfl⟩ : ∃ n, fuel = n + 1 :=
      ⟨fuel - 1, by rw [List.length_cons] at hfuel; omega⟩
    simp only [List.cons_append, List.append_assoc]
    rw [read_tag hname hkeys]
    -- an element without children may close itself, and then there is no content
    cases hclosed : children.isEmpty && closesItself name with
    | true =>
      rw [Bool.and_eq_true, List.isEmpty_iff] at hclosed
      rw [hclosed.1]
      rfl
    | false =>
      have hescape : escape "" = [] := rfl
      rw [hclosed] at hfuel
      simp only [Bool.false_eq_true, if_false, hescape, List.nil_append, List.append_assoc,
        List.length_cons, List.length_append] at hfuel ⊢
      rw [readContent_childrenChars hchildren ih hname indented (depth + 1) isBlank_lineBreak tail
        fuel (by simp only [List.length_append]; omega)]
      rfl
  | @text name attributes text hname hkeys htext =>
    intro indented depth tail fuel hfuel
    have hopen : closesItself name = false := by
      have hvalue : name = "value" := of_decide_eq_true htext
      rw [hvalue]
      decide
    have hclosing : closing name = '<' :: '/' :: (name.toList ++ ['>']) := by simp [closing]
    rw [chars_eq] at hfuel ⊢
    simp only [htext, hopen, List.isEmpty_nil, Bool.and_false, Bool.false_eq_true, if_false,
      if_true, childrenChars, List.nil_append, List.length_cons, List.length_append] at hfuel ⊢
    -- the tag, the text and the last tag take one unit of fuel each
    obtain ⟨fuel, rfl⟩ : ∃ n, fuel = n + 3 := by
      rw [hclosing, List.length_cons, List.length_cons] at hfuel
      exact ⟨fuel - 3, by omega⟩
    have htrim : Text.trimChars (Text.trimStart text.toList) = Text.trimChars text.toList := by
      rw [Text.trimChars, trimStart_trimStart, Text.trimChars]
    simp only [List.cons_append, List.append_assoc]
    rw [read_tag hname hkeys, readContent_escape hname]
    simp only [Except.map, htrim, Bool.false_eq_true, if_false]
    rw [trimmed, trimmedAll, Text.trim]

/-- **Texts.** A tree that begins a text is the whole text if nothing follows. -/
theorem ofText_chars {e : Element} (h : e.HasText) (indented : Bool) :
    ofText (String.ofList (e.chars indented 0)) = .ok e.trimmed := by
  obtain ⟨c, cs, hchars, hc⟩ := h.chars_head indented 0
  have hmark : (String.ofList (e.chars indented 0)).toList.dropWhile (· == byteOrderMark) =
      e.chars indented 0 := by
    rw [String.toList_ofList, hchars]
    exact List.dropWhile_cons_of_neg (by decide)
  have hskip : skip (e.chars indented 0).length (e.chars indented 0) =
      .ok (e.chars indented 0) := by
    rw [hchars]
    exact @skip_eq [] nofun _ (trimStart_cons (by decide)) (skippedEnd?_tag (.inr hc))
  have hread := read_chars h indented 0 [] ((e.chars indented 0).length + 1) (Nat.le_succ _)
  rw [List.append_nil] at hread
  unfold ofText
  simp only [hmark, hskip, Answer.ok_bind, hread]
  rfl

/-- **Round trip, on one line.** -/
theorem ofText_print {e : Element} (h : e.WellFormed) : ofText e.print = .ok e :=
  (ofText_chars h.hasText false).trans (congrArg Except.ok h.trimmed_eq)

/-- **Round trip, indented.** -/
theorem ofText_printIndented {e : Element} (h : e.WellFormed) : ofText e.printIndented = .ok e :=
  (ofText_chars h.hasText true).trans (congrArg Except.ok h.trimmed_eq)

end RecordService.Element
