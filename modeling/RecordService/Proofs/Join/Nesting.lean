import RecordService.Join.Compilation
import RecordService.Proofs.Answer

namespace RecordService.Link

/-!
# Joins within joins

A join in loose data is compiled by its own keys first, and then its nested joins one after the
other, by the names that they may start from.

* `sides`, `ofSides`: the pair of a join, and the rest of its head.
* `nestedJoins`: the joins that are nested in a map.
* `ofJson_object`: a map is compiled to its head and to the links of its nested joins.
* `join_induction`: induction on a join by the joins that are nested in it.
-/

/-! ### The head -/

/-- The two sides of the pair of a join, the linking one first. -/
def sides (parents : List String) (members : List (String × Json)) :
    Answer ((String × String) × (String × String)) := do
  let (key, target) ← pairOf members
  let left ← splitQualified key "the join key"
  let right ← splitQualified target "the join target"
  orient parents left right

/-- The sides of a join with one pair are those that the pair names. -/
theorem sides_of_pairOf {members : List (String × Json)} {key target : String}
    (hpair : pairOf members = .ok (key, target)) (parents : List String) :
    sides parents members = (do
      let left ← splitQualified key "the join key"
      let right ← splitQualified target "the join target"
      orient parents left right) := by
  rw [sides, hpair]
  rfl

/-- The head of the link between two sides, from the other keys of a join. -/
def ofSides (catalog : Catalog) (type? label? columns? filter? : Option Json)
    (ends : (String × String) × (String × String)) : Answer Link := do
  let type ← typeOf type?
  let label ← labelOf label?
  let columns ← columnsOf columns?
  let link : Link :=
    ⟨ends.1.1, ends.1.2, ends.2.1, ends.2.2, type, label, .always, [], columns⟩
  return { link with criteria := ← criteriaOf catalog link filter? }

/-- The pair is read first, and the other keys only once it makes sense. -/
theorem head_eq (catalog : Catalog) (parents : List String) (members : List (String × Json)) :
    head catalog parents members =
      sides parents members >>= ofSides catalog (keyed? members "type") (keyed? members "alias")
        (keyed? members "columns") (keyed? members "filter") := by
  simp only [head, sides, bind_assoc]
  rfl

/-! ### Nested joins -/

/-- The joins that are nested in a map: the items of the first member for them, or its only one. -/
def nestedJoins (members : List (String × Json)) : List Json :=
  match keyed? members "links" with
  | some (.array items) => items
  | some (.object nested) => [.object nested]
  | _ => []

section

variable {catalog : Catalog} {parents : List String}

/-- The joins of a list are read one by one. -/
theorem ofItems_eq_mapM (items : List Json) :
    ofItems catalog parents items = items.mapM (ofJson catalog parents) := by
  induction items with
  | nil =>
    rw [ofItems]
    rfl
  | cons item items ih => rw [ofItems, List.mapM_cons, ih]

/-- The joins nested in a join are read one by one. -/
theorem nestedIn_eq_mapM (members : List (String × Json)) :
    nestedIn catalog parents members = (nestedJoins members).mapM (ofJson catalog parents) := by
  induction members with
  | nil =>
    rw [nestedIn]
    rfl
  | cons member rest ih =>
    obtain ⟨name, value⟩ := member
    unfold nestedJoins keyed? at ih ⊢
    rw [nestedIn, List.find?_cons]
    cases hname : Text.eqIgnoreCase name "links" with
    | false => exact ih
    | true =>
      rw [if_pos rfl]
      cases value with
      | array items =>
        rw [nestedOf]
        exact ofItems_eq_mapM items
      | object nested =>
        have hmap : isMap (.object nested) = true := rfl
        show _ = [Json.object nested].mapM (ofJson catalog parents)
        rw [nestedOf, if_pos hmap, List.mapM_cons, List.mapM_nil]
        · rfl
        · exact nofun
      | _ => rfl

/-- A map is compiled to its head, and to the links of its nested joins. -/
theorem ofJson_object (members : List (String × Json)) :
    ofJson catalog parents (.object members) = do
      let link ← head catalog parents members
      let links ← (nestedJoins members).mapM (ofJson catalog link.parentNames)
      return { link with links } := by
  rw [ofJson]
  simp only [nestedIn_eq_mapM]

/-- A join whose pair makes no sense makes none. -/
theorem ofJson_eq_invalid {members : List (String × Json)} {message : String}
    (h : sides parents members = invalid message) :
    ofJson catalog parents (.object members) = invalid message := by
  rw [ofJson_object, head_eq, h]
  rfl

/-- Nothing but a map is a join. -/
theorem ofJson_of_not_isMap {j : Json} (h : isMap j = false) :
    ∃ message, ofJson catalog parents j = invalid message := by
  cases j with
  | object members => exact nomatch h
  | _ => exact ⟨_, rfl⟩

/-- What a map is compiled to: a head with the links of its nested joins. -/
theorem ofJson_eq_ok {members : List (String × Json)} {l : Link}
    (h : ofJson catalog parents (.object members) = .ok l) :
    ∃ link links, head catalog parents members = .ok link ∧
      (nestedJoins members).mapM (ofJson catalog link.parentNames) = .ok links ∧
      l = { link with links } := by
  rw [ofJson_object] at h
  obtain ⟨link, hhead, h⟩ := Answer.bind_eq_ok.1 h
  obtain ⟨links, hlinks, h⟩ := Answer.bind_eq_ok.1 h
  exact ⟨link, links, hhead, hlinks, (Except.ok.inj h).symm⟩

end

/-! ### Induction -/

/-- What stands under a key is smaller than the whole, so that recursion on it ends. -/
theorem sizeOf_lt_of_keyed? {members : List (String × Json)} {key : String} {value : Json}
    (h : keyed? members key = some value) : sizeOf value < sizeOf (Json.object members) := by
  obtain ⟨member, hmember, rfl⟩ := Option.map_eq_some_iff.1 h
  have hsize := List.sizeOf_lt_of_mem (List.mem_of_find?_eq_some hmember)
  have hvalue : sizeOf member.2 < sizeOf member := by
    obtain ⟨name, value⟩ := member
    simp only [Prod.mk.sizeOf_spec]
    omega
  simp only [Json.object.sizeOf_spec]
  omega

/-- A nested join is smaller than the join, so that recursion on it ends. -/
theorem sizeOf_lt_of_mem_nestedJoins {members : List (String × Json)} {j : Json}
    (h : j ∈ nestedJoins members) : sizeOf j < sizeOf (Json.object members) := by
  unfold nestedJoins at h
  split at h
  · rename_i items hvalue
    have hitem := List.sizeOf_lt_of_mem h
    have hitems := sizeOf_lt_of_keyed? hvalue
    simp only [Json.array.sizeOf_spec] at hitems
    omega
  · rename_i nested hvalue
    rw [List.mem_singleton.1 h]
    exact sizeOf_lt_of_keyed? hvalue
  · exact nomatch h

/-- What a join inherits from the joins that are nested in it holds of all. -/
@[elab_as_elim]
theorem join_induction {motive : Json → Prop}
    (map : ∀ members, (∀ j ∈ nestedJoins members, motive j) → motive (.object members))
    (other : ∀ j, isMap j = false → motive j) (j : Json) : motive j := by
  match j with
  | .object members => exact map members fun j _ => join_induction map other j
  | .null | .bool _ | .int _ | .double _ | .string _ | .array _ => exact other _ rfl
termination_by sizeOf j
decreasing_by exact sizeOf_lt_of_mem_nestedJoins ‹_›

end RecordService.Link
