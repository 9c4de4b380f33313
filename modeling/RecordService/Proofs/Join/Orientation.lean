import RecordService.Proofs.Join.Names
import Mathlib.Logic.Relation

namespace RecordService

/-!
# Either way round

The pair of a join may be written either way round. Where only one of its sides names a parent,
that side is the linking one, so that the join is compiled to the same link whichever side is the
key. If the join makes no sense it makes none either way, though what is said about it may quote
the other side.

* `Link.Alike`: answers that are the same, or failures that differ in words alone.
* `Link.Turned`: a join in which one pair is turned, of the join itself or of one nested in it.
* `Link.alike_of_turned`: to turn one pair does not matter.
* `JoinInput.compile_turned`: nor does it matter to turn any number of them.
-/

namespace Link

/-! ### Failures that differ in words -/

section

variable {α β : Type} {r r' r'' : Answer α}

/-- The same answer, or a join that makes no sense either way, told in different words. -/
def Alike (r r' : Answer α) : Prop :=
  r = r' ∨ ∃ message message', r = invalid message ∧ r' = invalid message'

/-- An answer is like itself. -/
theorem Alike.refl (r : Answer α) : Alike r r :=
  .inl rfl

/-- Joins that make no sense are alike, whatever is said about them. -/
theorem alike_invalid (message message' : String) :
    Alike (invalid message : Answer α) (invalid message') :=
  .inr ⟨message, message', rfl, rfl⟩

/-- Answers that are like the same one are alike. -/
theorem Alike.trans (h : Alike r r') (h' : Alike r' r'') : Alike r r'' := by
  rcases h with rfl | ⟨message, _, rfl, rfl⟩
  · exact h'
  · rcases h' with rfl | ⟨_, message', -, rfl⟩
    · exact alike_invalid message _
    · exact alike_invalid message message'

/-- Computations that go on alike with answers that are alike are alike. -/
theorem Alike.bind {f f' : α → Answer β} (h : Alike r r')
    (hf : ∀ a, r = .ok a → Alike (f a) (f' a)) : Alike (r >>= f) (r' >>= f') := by
  rcases h with rfl | ⟨message, message', rfl, rfl⟩
  · cases r with
    | error e => exact .refl _
    | ok a => exact hf a rfl
  · exact alike_invalid message message'

/-- So are lists of answers of which one is exchanged. -/
theorem alike_mapM_append {f : α → Answer β} {a a' : α} (h : Alike (f a) (f a'))
    (before after : List α) :
    Alike ((before ++ a :: after).mapM f) ((before ++ a' :: after).mapM f) := by
  simp only [List.mapM_append, List.mapM_cons]
  exact (Alike.refl _).bind fun _ _ => (h.bind fun _ _ => .refl _).bind fun _ _ => .refl _

end

/-! ### Members that are exchanged -/

section

variable {before after : List (String × Json)} {key : String} {member member' : String × Json}

/-- A key is looked up in the first part of the members, then in the second. -/
theorem keyed?_append (before rest : List (String × Json)) (key : String) :
    keyed? (before ++ rest) key = (keyed? before key).or (keyed? rest key) := by
  simp only [keyed?, List.find?_append, Option.map_or]

/-- A key is looked up in the first member, then in the others. -/
theorem keyed?_cons (member : String × Json) (rest : List (String × Json)) (key : String) :
    keyed? (member :: rest) key =
      if Text.eqIgnoreCase member.1 key then some member.2 else keyed? rest key := by
  unfold keyed?
  rw [List.find?_cons]
  cases Text.eqIgnoreCase member.1 key <;> rfl

/-- A key is looked up past the members that do not have it. -/
theorem keyed?_exchange (h : Text.eqIgnoreCase member.1 key = false)
    (h' : Text.eqIgnoreCase member'.1 key = false) :
    keyed? (before ++ member :: after) key = keyed? (before ++ member' :: after) key := by
  have hno : ¬false = true := Bool.false_ne_true
  rw [keyed?_append, keyed?_append, keyed?_cons, keyed?_cons, h, h', if_neg hno, if_neg hno]

/-- A name that is no key of a join is none of them in particular. -/
theorem ne_key_of_not_reserved {name : String} (hname : isNameIn reservedKeys name = false)
    (hkey : key ∈ reservedKeys) : Text.eqIgnoreCase name key = false := by
  rw [isNameIn, List.any_eq_false] at hname
  rw [Text.eqIgnoreCase_comm]
  exact Bool.not_eq_true _ ▸ hname key hkey

/-- No key of a join is qualified. -/
theorem not_reserved_of_hasParts {P : String → Prop} {s : String} (h : HasParts P s) :
    isNameIn reservedKeys s = false := by
  obtain ⟨entity, name, hsplit, -⟩ := h
  have hkeys : ∀ key ∈ reservedKeys, '.' ∉ Text.foldAscii key := by decide
  have hpoint : '.' ∈ s.toList := by
    refine Decidable.by_contra fun hnone => ?_
    have hspan : s.toList.span (· != '.') = (s.toList, []) :=
      Text.span_of_forall fun c hc => bne_iff_ne.2 fun h => hnone (h ▸ hc)
    rw [Filter.splitOwner, hspan] at hsplit
    exact nomatch hsplit
  rw [isNameIn, List.any_eq_false]
  intro key hkey hsame
  refine hkeys key hkey ?_
  rw [Text.eqIgnoreCase_iff.1 hsame]
  exact List.mem_map.2 ⟨'.', hpoint, rfl⟩

end

/-! ### Turned joins -/

/-- Whether a side of a pair names a parent. -/
def namesParent (parents : List String) (side : String) : Bool :=
  (Filter.splitOwner side).1.any fun entity => isNameIn parents (Text.trim entity)

/-- A join that hangs from one of some names, in which one pair is turned of which exactly one side
names a parent. A nested join may start from the names of the link above it; where the join above
has no link, nothing is known of these names. -/
inductive Turned (catalog : Catalog) : List String → Json → Json → Prop where
  /-- The pair of the join. -/
  | pair {parents : List String} {before after : List (String × Json)} {key target : String}
      (hpair : pairOf (before ++ (key, .string target) :: after) = .ok (key, target))
      (hone : namesParent parents key ≠ namesParent parents target) :
      Turned catalog parents (.object (before ++ (key, .string target) :: after))
        (.object (before ++ (target, .string key) :: after))
  /-- A pair in the only nested join. -/
  | nested {parents names : List String} {before after : List (String × Json)} {name : String}
      {j j' : Json} (hname : Text.eqIgnoreCase name "links" = true)
      (hnames : ∀ link, head catalog parents (before ++ (name, j) :: after) = .ok link →
        link.parentNames = names) (h : Turned catalog names j j') :
      Turned catalog parents (.object (before ++ (name, j) :: after))
        (.object (before ++ (name, j') :: after))
  /-- A pair in one of several nested joins. -/
  | item {parents names : List String} {before after : List (String × Json)} {name : String}
      {earlier later : List Json} {j j' : Json} (hname : Text.eqIgnoreCase name "links" = true)
      (hnames : ∀ link,
        head catalog parents (before ++ (name, .array (earlier ++ j :: later)) :: after) =
            .ok link →
          link.parentNames = names) (h : Turned catalog names j j') :
      Turned catalog parents (.object (before ++ (name, .array (earlier ++ j :: later)) :: after))
        (.object (before ++ (name, .array (earlier ++ j' :: later)) :: after))

section

variable {catalog : Catalog} {parents : List String} {before after : List (String × Json)}
  {key target : String}

/-! ### The pair of a join -/

/-- The members that are no keys of joins. -/
def unreserved (members : List (String × Json)) : List (String × Json) :=
  members.filter fun member => !isNameIn reservedKeys member.1

/-- The pair of a join is the only one of them. -/
theorem pairOf_eq_ok_iff {members : List (String × Json)} :
    pairOf members = .ok (key, target) ↔ unreserved members = [(key, .string target)] := by
  constructor
  · intro h
    unfold pairOf at h
    split at h
    · rename_i hmembers
      cases h
      exact hmembers
    all_goals cases h
  · intro h
    unfold unreserved at h
    rw [pairOf, h]

/-- What else is said of a join without a pair may quote the whole join, but is the same failure. -/
theorem alike_pairOf {members members' : List (String × Json)}
    (h : unreserved members = unreserved members') : Alike (pairOf members) (pairOf members') := by
  unfold unreserved at h
  unfold pairOf
  rw [h]
  split
  · exact .refl _
  · exact .refl _
  · exact alike_invalid _ _
  · exact .refl _

/-- The key of a pair is no key that joins have for something else. -/
theorem not_reserved_of_pairOf {members : List (String × Json)}
    (hpair : pairOf members = .ok (key, target)) : isNameIn reservedKeys key = false := by
  have hmem : (key, Json.string target) ∈ unreserved members := by
    rw [pairOf_eq_ok_iff.1 hpair]
    exact List.mem_singleton_self _
  simpa using (List.mem_filter.1 hmem).2

/-- Turned round, the pair is the only member again that is no key of joins, unless its target is
one. -/
theorem unreserved_turned
    (hpair : pairOf (before ++ (key, .string target) :: after) = .ok (key, target)) :
    unreserved (before ++ (target, .string key) :: after) =
      if isNameIn reservedKeys target then [] else [(target, .string key)] := by
  have hkey := not_reserved_of_pairOf hpair
  have hmembers := pairOf_eq_ok_iff.1 hpair
  obtain ⟨hbefore, hafter⟩ : unreserved before = [] ∧ unreserved after = [] := by
    unfold unreserved at hmembers ⊢
    rw [List.filter_append, List.filter_cons_of_pos (by simpa using hkey)] at hmembers
    simpa [List.append_eq_singleton_iff] using hmembers
  unfold unreserved at hbefore hafter ⊢
  rw [List.filter_append, hbefore, List.nil_append, List.filter_cons, hafter]
  cases isNameIn reservedKeys target <;> rfl

/-- Turned round, a pair is read as the turned pair, unless its target is a key that joins have for
something else. -/
theorem pairOf_turned
    (hpair : pairOf (before ++ (key, .string target) :: after) = .ok (key, target))
    (htarget : isNameIn reservedKeys target = false) :
    pairOf (before ++ (target, .string key) :: after) = .ok (target, key) := by
  have hmembers := unreserved_turned hpair
  rw [htarget] at hmembers
  exact pairOf_eq_ok_iff.2 hmembers

/-- If the target is a key of joins, the turned join has no pair. -/
theorem sides_turned_of_reserved
    (hpair : pairOf (before ++ (key, .string target) :: after) = .ok (key, target))
    (htarget : isNameIn reservedKeys target = true) :
    ∃ message, sides parents (before ++ (target, .string key) :: after) = invalid message := by
  have hmembers := unreserved_turned hpair
  rw [htarget, if_pos rfl] at hmembers
  unfold unreserved at hmembers
  rw [sides, pairOf, hmembers]
  exact ⟨_, rfl⟩

/-- The side that names a parent comes first, whichever side is looked at first. -/
theorem orient_comm {left right : String × String}
    (h : isNameIn parents left.1 ≠ isNameIn parents right.1) :
    orient parents left right = orient parents right left := by
  unfold orient
  cases hleft : isNameIn parents left.1 <;> cases hright : isNameIn parents right.1
  · exact absurd (hleft.trans hright.symm) h
  · rfl
  · rfl
  · exact absurd (hleft.trans hright.symm) h

/-- **Turned pairs.** A pair of which one side names a parent may be turned. -/
theorem alike_of_turned_pair
    (hpair : pairOf (before ++ (key, .string target) :: after) = .ok (key, target))
    (hone : namesParent parents key ≠ namesParent parents target) :
    Alike (ofJson catalog parents (.object (before ++ (key, .string target) :: after)))
      (ofJson catalog parents (.object (before ++ (target, .string key) :: after))) := by
  have hkey := not_reserved_of_pairOf hpair
  by_cases hparts : HasParts (· ≠ "") key ∧ HasParts (· ≠ "") target
  · have htarget : isNameIn reservedKeys target = false := not_reserved_of_hasParts hparts.2
    obtain ⟨⟨entity, name, hsplit, hpresent⟩, entity', name', hsplit', hpresent'⟩ := hparts
    -- the pair is oriented by the side that names a parent, so both ways round have the same sides
    have hsides : sides parents (before ++ (key, .string target) :: after) =
        sides parents (before ++ (target, .string key) :: after) := by
      rw [sides_of_pairOf hpair, sides_of_pairOf (pairOf_turned hpair htarget),
        splitQualified_of_present hsplit hpresent, splitQualified_of_present hsplit' hpresent',
        splitQualified_of_present hsplit hpresent, splitQualified_of_present hsplit' hpresent']
      rw [namesParent, namesParent, hsplit, hsplit'] at hone
      exact orient_comm hone
    -- and all else that is looked up is found as before
    have hkeyed : ∀ k ∈ reservedKeys, keyed? (before ++ (key, .string target) :: after) k =
        keyed? (before ++ (target, .string key) :: after) k := by
      intro k hk
      exact keyed?_exchange (ne_key_of_not_reserved hkey hk) (ne_key_of_not_reserved htarget hk)
    have hnested : nestedJoins (before ++ (key, .string target) :: after) =
        nestedJoins (before ++ (target, .string key) :: after) := by
      rw [nestedJoins, nestedJoins, hkeyed "links" (by decide)]
    rw [ofJson_object, ofJson_object, head_eq, head_eq, hsides, hnested,
      hkeyed "type" (by decide), hkeyed "alias" (by decide), hkeyed "columns" (by decide),
      hkeyed "filter" (by decide)]
    exact .refl _
  · -- neither way round are all parts there
    obtain ⟨message, hmessage⟩ := sides_eq_invalid hpair hparts parents
    obtain ⟨message', hmessage'⟩ :
        ∃ message, sides parents (before ++ (target, .string key) :: after) = invalid message := by
      cases htarget : isNameIn reservedKeys target with
      | true => exact sides_turned_of_reserved hpair htarget
      | false =>
        exact sides_eq_invalid (pairOf_turned hpair htarget) (fun h => hparts h.symm) parents
    rw [ofJson_eq_invalid hmessage, ofJson_eq_invalid hmessage']
    exact alike_invalid message message'

/-! ### Nested joins -/

/-- What is exchanged among the nested joins does not matter for the head of a join. -/
theorem alike_head {name : String} (hname : Text.eqIgnoreCase name "links" = true)
    (value value' : Json) :
    Alike (head catalog parents (before ++ (name, value) :: after))
      (head catalog parents (before ++ (name, value') :: after)) := by
  have hreserved : isNameIn reservedKeys name = true :=
    List.any_eq_true.2 ⟨"links", by decide, by rwa [Text.eqIgnoreCase_comm]⟩
  have hmembers : unreserved (before ++ (name, value) :: after) =
      unreserved (before ++ (name, value') :: after) := by
    unfold unreserved
    rw [List.filter_append, List.filter_append, List.filter_cons_of_neg (by simpa using hreserved),
      List.filter_cons_of_neg (by simpa using hreserved)]
  have hkeyed : ∀ k, Text.eqIgnoreCase "links" k = false →
      keyed? (before ++ (name, value) :: after) k =
        keyed? (before ++ (name, value') :: after) k := by
    intro k hk
    have hother : Text.eqIgnoreCase name k = false := by
      rw [Bool.eq_false_iff] at hk ⊢
      exact fun h => hk (Text.eqIgnoreCase_trans (by rwa [Text.eqIgnoreCase_comm]) h)
    exact keyed?_exchange hother hother
  rw [head_eq, head_eq, hkeyed "type" (by decide), hkeyed "alias" (by decide),
    hkeyed "columns" (by decide), hkeyed "filter" (by decide), sides, sides]
  exact ((alike_pairOf hmembers).bind fun _ _ => .refl _).bind fun _ _ => .refl _

/-- Of several members for nested joins the first one counts. -/
theorem nestedJoins_append {name : String} (hname : Text.eqIgnoreCase name "links" = true)
    (value : Json) :
    nestedJoins (before ++ (name, value) :: after) =
      if (keyed? before "links").isSome then nestedJoins before
      else nestedJoins [(name, value)] := by
  unfold nestedJoins
  rw [keyed?_append, keyed?_cons, keyed?_cons, if_pos hname, if_pos hname]
  cases keyed? before "links" <;> rfl

/-- Nested joins may be exchanged for others that are compiled alike, by the names that they may
start from if there are any. -/
theorem alike_of_nestedJoins {name : String} {names : List String} {value value' : Json}
    (hname : Text.eqIgnoreCase name "links" = true)
    (hnames : ∀ link, head catalog parents (before ++ (name, value) :: after) = .ok link →
      link.parentNames = names)
    (h : Alike ((nestedJoins [(name, value)]).mapM (ofJson catalog names))
      ((nestedJoins [(name, value')]).mapM (ofJson catalog names))) :
    Alike (ofJson catalog parents (.object (before ++ (name, value) :: after)))
      (ofJson catalog parents (.object (before ++ (name, value') :: after))) := by
  rw [ofJson_object, ofJson_object]
  refine (alike_head hname value value').bind fun link hlink => ?_
  refine Alike.bind ?_ fun _ _ => .refl _
  rw [hnames link hlink, nestedJoins_append hname, nestedJoins_append hname]
  split
  · exact .refl _
  · exact h

/-- The joins in a list under the key of links are those of the list. -/
theorem nestedJoins_array {name : String} (hname : Text.eqIgnoreCase name "links" = true)
    (items : List Json) : nestedJoins [(name, .array items)] = items := by
  rw [nestedJoins, keyed?_cons, if_pos hname]

/-- A single join under the key of links is the only one. -/
theorem nestedJoins_map {name : String} (hname : Text.eqIgnoreCase name "links" = true)
    {j : Json} (hj : isMap j = true) : nestedJoins [(name, j)] = [j] := by
  rw [nestedJoins, keyed?_cons, if_pos hname]
  cases j with
  | object members => rfl
  | _ => exact nomatch hj

/-- A pair is turned in a join, and a join it stays. -/
theorem Turned.isMap {j j' : Json} (h : Turned catalog parents j j') :
    Link.isMap j = true ∧ Link.isMap j' = true := by
  cases h <;> exact ⟨rfl, rfl⟩

/-- **A turned pair.** To turn one pair of which one side names a parent, at any depth, does not
matter. -/
theorem alike_of_turned {j j' : Json} (h : Turned catalog parents j j') :
    Alike (ofJson catalog parents j) (ofJson catalog parents j') := by
  induction h with
  | pair hpair hone => exact alike_of_turned_pair hpair hone
  | nested hname hnames h ih =>
    obtain ⟨hj, hj'⟩ := h.isMap
    refine alike_of_nestedJoins hname hnames ?_
    rw [nestedJoins_map hname hj, nestedJoins_map hname hj']
    exact alike_mapM_append ih [] []
  | item hname hnames _ ih =>
    refine alike_of_nestedJoins hname hnames ?_
    rw [nestedJoins_array hname, nestedJoins_array hname]
    exact alike_mapM_append ih _ _

end

end Link

namespace JoinInput

/-- **Orientation.** In a join in loose data, any number of pairs may be turned, each of them of the
join itself or of one nested in it at any depth, and with exactly one side that names a parent. The
join is compiled to the same tree of links, or fails with the same failure, or makes no sense either
way. -/
theorem compile_turned {catalog : Catalog} {parent : String} {j j' : Json}
    (h : Relation.ReflTransGen (Link.Turned catalog [parent]) j j') :
    compile catalog parent (.loose j) = compile catalog parent (.loose j') ∨
      ∃ message message', compile catalog parent (.loose j) = fail (.invalidJoin message) ∧
        compile catalog parent (.loose j') = fail (.invalidJoin message') := by
  show Link.Alike (Link.ofJson catalog [parent] j) (Link.ofJson catalog [parent] j')
  induction h with
  | refl => exact .refl _
  | tail _ hturned ih => exact ih.trans (Link.alike_of_turned hturned)

namespace Sample

/-- The account of a contact under a label, and the first contact of that account, by their
pairs. -/
def labelled (key target key' target' : String) : Json :=
  .object [(key, .string target), ("alias", .string "a"),
    ("links", .array [.object [(key', .string target')]])]

/-- The pairs with the linking side first. The second one starts from the label. -/
def straight : Json :=
  labelled "contact.parentcustomerid" "account.accountid" "A.primarycontactid" "contact.contactid"

/-- The pairs with the linking side last. -/
def turned : Json :=
  labelled "account.accountid" "contact.parentcustomerid" "contact.contactid" "A.primarycontactid"

end Sample

/-- Both joins are compiled to the same two links. -/
theorem compile_turned_labelled :
    Relation.ReflTransGen (Link.Turned .empty ["contact"]) Sample.straight Sample.turned ∧
      ∃ l, compile .empty "contact" (.loose Sample.straight) = .ok l ∧
        compile .empty "contact" (.loose Sample.turned) = .ok l := by
  have houter : Link.Turned .empty ["contact"] Sample.straight
      (Sample.labelled "account.accountid" "contact.parentcustomerid" "A.primarycontactid"
        "contact.contactid") :=
    @Link.Turned.pair .empty ["contact"] [] _ _ _ rfl (by decide)
  have hinner : Link.Turned .empty ["account", "a"]
      (.object [("A.primarycontactid", .string "contact.contactid")])
      (.object [("contact.contactid", .string "A.primarycontactid")]) :=
    @Link.Turned.pair .empty ["account", "a"] [] [] _ _ rfl (by decide)
  have hbelow : Link.Turned .empty ["contact"]
      (Sample.labelled "account.accountid" "contact.parentcustomerid" "A.primarycontactid"
        "contact.contactid") Sample.turned := by
    refine @Link.Turned.item .empty ["contact"] ["account", "a"] [_, _] [] "links" [] [] _ _ rfl ?_
      hinner
    intro link hlink
    cases hlink
    rfl
  have hturned := (Relation.ReflTransGen.single houter).tail hbelow
  have hcompiled : (compile .empty "contact" (.loose Sample.straight)).toBool = true := by
    decide +kernel
  obtain ⟨l, hl⟩ := Answer.exists_of_toBool hcompiled
  refine ⟨hturned, l, hl, ?_⟩
  rcases compile_turned hturned with hsame | ⟨message, _, hinvalid, -⟩
  · exact hsame.symm.trans hl
  · exact nomatch hl.symm.trans hinvalid

end JoinInput

end RecordService
