namespace RecordService

/-!
# Ordered dictionaries

A dictionary keeps its entries in the order in which their names came first. A name has one
entry.

* `Dict.insert`: a new value keeps the place of the old one.
* `Dict.erase`: the other entries keep their order.
* `Dict.get?`: the value of a name.
-/

/-- Entries of which no two share a name. -/
structure Dict (α : Type) where
  entries : List (String × α)
  nodup : (entries.map Prod.fst).Nodup
  deriving DecidableEq, Repr

namespace Dict

variable {α β : Type}

/-- The names in order. -/
def names (d : Dict α) : List String :=
  d.entries.map Prod.fst

/-- No entries. -/
def empty : Dict α :=
  ⟨[], List.nodup_nil⟩

instance : Inhabited (Dict α) := ⟨empty⟩

/-- The value of a name. -/
def get? (d : Dict α) (name : String) : Option α :=
  d.entries.lookup name

/-- What is looked up under a name is an entry of that name. -/
theorem mem_entries_of_get? {d : Dict α} {name : String} {value : α}
    (h : d.get? name = some value) : (name, value) ∈ d.entries := by
  obtain ⟨before, after, heq, -⟩ := List.lookup_eq_some_iff.1 h
  rw [heq]
  exact List.mem_append_right _ List.mem_cons_self

/-- Whether a name has an entry. -/
def contains (d : Dict α) (name : String) : Bool :=
  d.entries.any (·.1 == name)

/-- The first entry whose name satisfies `p`. -/
def find? (d : Dict α) (p : String → Bool) : Option (String × α) :=
  d.entries.find? fun entry => p entry.1

/-! ### Insertion -/

/-- Replace the value of a name, or add an entry at the end. -/
def put (name : String) (value : α) : List (String × α) → List (String × α)
  | [] => [(name, value)]
  | entry :: rest =>
    if entry.1 = name then (name, value) :: rest else entry :: put name value rest

/-- Putting a value under a name adds that name, and no other. -/
theorem mem_names_put {name other : String} {value : α} {entries : List (String × α)} :
    other ∈ (put name value entries).map Prod.fst ↔
      other = name ∨ other ∈ entries.map Prod.fst := by
  induction entries with
  | nil => simp [put]
  | cons entry rest ih =>
    by_cases h : entry.1 = name
    · simp [put, h]
    · simp only [put, h, if_false, List.map_cons, List.mem_cons, ih]
      constructor <;> rintro (h | h | h) <;> simp [h]

/-- Putting a value under a name adds that entry, and no other. -/
theorem mem_put {name : String} {value : α} {entry : String × α} {entries : List (String × α)}
    (h : entry ∈ put name value entries) : entry = (name, value) ∨ entry ∈ entries := by
  induction entries with
  | nil => exact .inl (List.mem_singleton.1 h)
  | cons other rest ih =>
    by_cases hn : other.1 = name
    · rw [put, if_pos hn, List.mem_cons] at h
      exact h.imp_right (List.mem_cons_of_mem _)
    · rw [put, if_neg hn, List.mem_cons] at h
      rcases h with rfl | h
      · exact .inr List.mem_cons_self
      · exact (ih h).imp_right (List.mem_cons_of_mem _)

/-- Putting a value under a name leaves the names without doubles. -/
theorem nodup_put {name : String} {value : α} {entries : List (String × α)}
    (h : (entries.map Prod.fst).Nodup) : ((put name value entries).map Prod.fst).Nodup := by
  induction entries with
  | nil => simp [put]
  | cons entry rest ih =>
    rw [List.map_cons, List.nodup_cons] at h
    by_cases hn : entry.1 = name
    · rw [put, if_pos hn, List.map_cons, List.nodup_cons]
      exact hn ▸ h
    · rw [put, if_neg hn, List.map_cons, List.nodup_cons, mem_names_put]
      exact ⟨fun hm => hm.elim hn h.1, ih h.2⟩

/-- Give a name a value. -/
def insert (d : Dict α) (name : String) (value : α) : Dict α :=
  ⟨put name value d.entries, nodup_put d.nodup⟩

/-- Insert entries one after the other. -/
def insertAll (d : Dict α) (entries : List (String × α)) : Dict α :=
  entries.foldl (fun d entry => d.insert entry.1 entry.2) d

/-- The dictionary of some entries, the last value of a name counting. -/
def ofList (entries : List (String × α)) : Dict α :=
  empty.insertAll entries

/-! ### Other changes -/

/-- The entries whose names and values satisfy `p`. -/
def filter (p : String → α → Bool) (d : Dict α) : Dict α :=
  ⟨d.entries.filter fun entry => p entry.1 entry.2,
    (List.filter_sublist.map _).nodup d.nodup⟩

/-- Remove a name. -/
def erase (d : Dict α) (name : String) : Dict α :=
  d.filter fun other _ => other != name

/-- Change the values. -/
def map (f : α → β) (d : Dict α) : Dict β :=
  ⟨d.entries.map fun entry => (entry.1, f entry.2), by
    simpa [List.map_map, Function.comp_def] using d.nodup⟩

end Dict

end RecordService
