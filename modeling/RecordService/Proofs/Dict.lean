import RecordService.Dict

namespace RecordService

/-!
# Laws of ordered dictionaries

What is found after an insertion, and where. A dictionary is told by the order of its names and by
the value of each of them; so entries that are inserted once more, after all that they came with,
change nothing.

* `eq_of_keys`: lists that are told by their keys and their members.
* `Dict.get?_insert`, `Dict.map_insert_of_get?`: a single insertion.
* `Dict.get?_insertAll`: of several values for a name the last one counts.
* `Dict.ext_get?`: dictionaries are told by their names and values.
* `Dict.insertAll_again`: inserting entries again changes nothing.
-/

/-! ### Lists with keys -/

/-- Two lists with the same keys in the same order, none of them twice, are the same if the members
of one are members of the other. -/
theorem eq_of_keys {β κ : Type} (key : β → κ) {l l' : List β}
    (hkeys : l.map key = l'.map key) (hnodup : (l.map key).Nodup) (hmem : ∀ x ∈ l, x ∈ l') :
    l = l' := by
  induction l generalizing l' with
  | nil =>
    cases l' with
    | nil => rfl
    | cons b l' => simp at hkeys
  | cons a l ih =>
    cases l' with
    | nil => simp at hkeys
    | cons b l' =>
      simp only [List.map_cons, List.cons.injEq] at hkeys
      obtain ⟨hab, hkeys⟩ := hkeys
      simp only [List.map_cons, List.nodup_cons] at hnodup
      -- the first member of one list has the key of the first member of the other
      have ha : a = b := by
        rcases List.mem_cons.1 (hmem a List.mem_cons_self) with ha | ha
        · exact ha
        · have hkey : key a ∈ l.map key := hkeys ▸ List.mem_map_of_mem ha
          exact absurd hkey hnodup.1
      subst ha
      have htail : ∀ x ∈ l, x ∈ l' := by
        intro x hx
        rcases List.mem_cons.1 (hmem x (List.mem_cons_of_mem _ hx)) with rfl | hx'
        · exact absurd (List.mem_map_of_mem hx) hnodup.1
        · exact hx'
      rw [ih hkeys hnodup.2 htail]

namespace Dict

variable {α : Type}

/-! ### A single insertion -/

/-- A name is looked up in the first entry, then in the others. -/
theorem lookup_cons_eq (name : String) (entry : String × α) (entries : List (String × α)) :
    (entry :: entries).lookup name =
      if name = entry.1 then some entry.2 else entries.lookup name := by
  obtain ⟨first, value⟩ := entry
  rw [List.lookup_cons]
  by_cases h : name = first
  · simp [h]
  · have hne : (name == first) = false := by simpa using h
    simp [h, hne]

/-- A value that is put under a name is the one looked up there, and the other names keep theirs. -/
theorem lookup_put (name other : String) (value : α) (entries : List (String × α)) :
    (put name value entries).lookup other =
      if other = name then some value else entries.lookup other := by
  induction entries with
  | nil => simp [put, lookup_cons_eq]
  | cons entry entries ih =>
    by_cases hfirst : entry.1 = name
    · -- the old value of the name is not found any more
      by_cases h : other = name <;> simp [put, lookup_cons_eq, hfirst, h]
    · by_cases h : other = entry.1
      · simp [put, lookup_cons_eq, hfirst, h]
      · simp [put, lookup_cons_eq, hfirst, h, ih]

/-- After an insertion the name has the new value, and all others have theirs. -/
theorem get?_insert (d : Dict α) (name other : String) (value : α) :
    (d.insert name value).get? other = if other = name then some value else d.get? other :=
  lookup_put name other value d.entries

/-- Every entry is found by its name. -/
theorem get?_of_mem {d : Dict α} {name : String} {value : α} (h : (name, value) ∈ d.entries) :
    d.get? name = some value := by
  obtain ⟨entries, hnodup⟩ := d
  show entries.lookup name = some value
  change (name, value) ∈ entries at h
  induction entries with
  | nil => simp at h
  | cons entry entries ih =>
    simp only [List.map_cons, List.nodup_cons] at hnodup
    rcases List.mem_cons.1 h with rfl | h
    · simp
    · have hne : name ≠ entry.1 := by
        rintro rfl
        exact hnodup.1 (List.mem_map.2 ⟨(entry.1, value), h, rfl⟩)
      simpa [lookup_cons_eq, hne] using ih hnodup.2 h

/-- An insertion adds the name that it is about, and no other. -/
theorem mem_names_insert {d : Dict α} {name other : String} {value : α} :
    other ∈ (d.insert name value).names ↔ other = name ∨ other ∈ d.names :=
  mem_names_put

/-- What an insertion does not change about the value of a name, it changes nowhere. -/
theorem map_insert_of_get? {β : Type} {d : Dict α} {name : String} {old value : α} (f : α → β)
    (h : d.get? name = some old) (hf : f value = f old) :
    (d.insert name value).map f = d.map f := by
  have hentries : ∀ entries : List (String × α), entries.lookup name = some old →
      (put name value entries).map (fun entry => (entry.1, f entry.2)) =
        entries.map fun entry => (entry.1, f entry.2) := by
    intro entries h
    induction entries with
    | nil => simp at h
    | cons entry entries ih =>
      rw [lookup_cons_eq] at h
      by_cases hfirst : entry.1 = name
      · rw [if_pos hfirst.symm] at h
        cases h
        simp [put, hfirst, hf]
      · rw [if_neg (Ne.symm hfirst)] at h
        simp [put, hfirst, ih h]
  unfold map
  congr 1
  exact hentries d.entries h

/-- Changing the values keeps the names, in their order. -/
@[simp] theorem names_map {β : Type} (d : Dict α) (f : α → β) : (d.map f).names = d.names := by
  simp [names, map, Function.comp_def]

/-- The value of a name is changed as all values are. -/
theorem get?_map {β : Type} (d : Dict α) (f : α → β) (name : String) :
    (d.map f).get? name = (d.get? name).map f := by
  show (d.entries.map fun entry => (entry.1, f entry.2)).lookup name =
    (d.entries.lookup name).map f
  induction d.entries with
  | nil => rfl
  | cons entry entries ih =>
    rw [List.map_cons, lookup_cons_eq, lookup_cons_eq, ih]
    by_cases h : name = entry.1 <;> simp [h]

/-- A name that has a value keeps its place. -/
theorem names_insert_of_mem {d : Dict α} {name : String} (value : α) (h : name ∈ d.names) :
    (d.insert name value).names = d.names := by
  obtain ⟨⟨name, old⟩, hentry, rfl⟩ := List.mem_map.1 h
  have hmap : (d.insert name value).map (fun _ => ()) = d.map fun _ => () :=
    map_insert_of_get? _ (get?_of_mem hentry) rfl
  rw [← names_map _ fun _ => (), hmap, names_map]

/-- An insertion leaves the entries of other names as they are, and in order. -/
theorem filter_insert {d : Dict α} {name : String} (value : α) {p : String → Bool}
    (h : p name = false) :
    (d.insert name value).entries.filter (fun entry => p entry.1) =
      d.entries.filter fun entry => p entry.1 := by
  show (put name value d.entries).filter _ = _
  induction d.entries with
  | nil => simp [put, h]
  | cons entry entries ih =>
    by_cases hfirst : entry.1 = name
    · simp [put, hfirst, h]
    · by_cases hp : p entry.1 = true <;> simp [put, hfirst, hp, ih]

/-! ### Several insertions -/

theorem insertAll_cons (d : Dict α) (entry : String × α) (entries : List (String × α)) :
    d.insertAll (entry :: entries) = (d.insert entry.1 entry.2).insertAll entries := rfl

/-- Of several values for a name the last one counts. -/
theorem get?_insertAll (d : Dict α) (entries : List (String × α)) (name : String) :
    (d.insertAll entries).get? name = (entries.reverse.lookup name).or (d.get? name) := by
  induction entries generalizing d with
  | nil => rfl
  | cons entry entries ih =>
    rw [insertAll_cons, ih, List.reverse_cons, List.lookup_append, Option.or_assoc, get?_insert]
    by_cases h : name = entry.1 <;> simp [lookup_cons_eq, h]

/-- Several insertions add the names that they are about, and no others. -/
theorem mem_names_insertAll {d : Dict α} {entries : List (String × α)} {name : String} :
    name ∈ (d.insertAll entries).names ↔ name ∈ d.names ∨ name ∈ entries.map Prod.fst := by
  induction entries generalizing d with
  | nil => simp [insertAll]
  | cons entry entries ih =>
    rw [insertAll_cons, ih, mem_names_insert, List.map_cons, List.mem_cons]
    constructor
    · rintro ((h | h) | h) <;> simp [h]
    · rintro (h | h | h) <;> simp [h]

/-- Insertions under names that are there already leave the names as they are. -/
theorem names_insertAll_of_forall {d : Dict α} {entries : List (String × α)}
    (h : ∀ entry ∈ entries, entry.1 ∈ d.names) : (d.insertAll entries).names = d.names := by
  induction entries generalizing d with
  | nil => rfl
  | cons entry entries ih =>
    have hfirst := names_insert_of_mem entry.2 (h entry List.mem_cons_self)
    have hrest : ∀ other ∈ entries, other.1 ∈ (d.insert entry.1 entry.2).names := by
      intro other hother
      rw [hfirst]
      exact h other (List.mem_cons_of_mem _ hother)
    rw [insertAll_cons, ih hrest, hfirst]

/-! ### Equality -/

/-- Dictionaries with the same names in the same order and the same values are the same. -/
theorem ext_get? {d d' : Dict α} (hnames : d.names = d'.names)
    (h : ∀ name, d.get? name = d'.get? name) : d = d' := by
  have hentries : d.entries = d'.entries := by
    refine eq_of_keys Prod.fst hnames d.nodup ?_
    intro entry hentry
    exact mem_entries_of_get? ((h entry.1).symm.trans (get?_of_mem hentry))
  obtain ⟨entries, hnodup⟩ := d
  obtain ⟨entries', hnodup'⟩ := d'
  subst hentries
  rfl

/-- **Inserting again.** Entries that were inserted last may be inserted once more. -/
theorem insertAll_again (d : Dict α) (entries : List (String × α)) :
    (d.insertAll entries).insertAll entries = d.insertAll entries := by
  refine ext_get? ?_ ?_
  · -- every name has its place already
    apply names_insertAll_of_forall
    intro entry hentry
    exact mem_names_insertAll.2 (.inr (List.mem_map_of_mem hentry))
  · intro name
    rw [get?_insertAll, get?_insertAll, ← Option.or_assoc, Option.or_self]

end Dict

end RecordService
