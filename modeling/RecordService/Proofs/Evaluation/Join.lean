import RecordService.Evaluation.Join

namespace RecordService

/-!
# Rows that links make

A link makes rows out of each row by itself, and keeps what the row has. What it makes of one row
depends on the records that it finds for it.

* `Link.forest_induction`: induction on the links of a row together with those below them.
* `Link.within`: a link and those below it, in preorder.
* `Link.source?_join_self`, `Link.source?_join_of_ne`: where a link starts after a join.
* `Link.found`: the records that a link finds for a row.
* `Link.extend_singleton`, `Link.extend_eq_flatMap`: what a link makes of one row, and of several.
* `Link.extends_of_mem_extend`: what is made of a row extends it.
-/

/-! ### Joined records -/

namespace Row

/-- A row has the root and the joined records of another one, and what came after them. -/
def Extends (row before : Row) : Prop :=
  row.root = before.root ∧ before.links <+: row.links

/-- A row extends itself. -/
theorem Extends.refl (row : Row) : row.Extends row :=
  ⟨rfl, List.prefix_rfl⟩

/-- A row that extends an extension extends the row that it came from. -/
theorem Extends.trans {a b c : Row} (hab : a.Extends b) (hbc : b.Extends c) : a.Extends c :=
  ⟨hab.1.trans hbc.1, hbc.2.trans hab.2⟩

/-- Joining a record extends a row. -/
theorem extends_join (row : Row) (name : String) (r : Option Record) :
    (row.join name r).Extends row :=
  ⟨rfl, List.prefix_append _ _⟩

/-- The latest link that has a name is the one that the name stands for. -/
theorem link?_join (row : Row) (name : String) (r : Option Record) (owner : String) :
    (row.join name r).link? owner =
      if Text.eqIgnoreCase name owner then some r else row.link? owner := by
  unfold link? join
  rw [List.reverse_append, List.reverse_singleton, List.singleton_append, List.find?_cons]
  cases Text.eqIgnoreCase name owner <;> rfl

/-- Join some records under some names, one after the other. -/
def joinAll (row : Row) (entries : List (String × Option Record)) : Row :=
  { row with links := row.links ++ entries }

theorem joinAll_nil (row : Row) : row.joinAll [] = row := by
  rw [joinAll, List.append_nil]

theorem joinAll_cons (row : Row) (name : String) (r : Option Record)
    (entries : List (String × Option Record)) :
    row.joinAll ((name, r) :: entries) = (row.join name r).joinAll entries := by
  simp only [joinAll, join, List.append_assoc, List.singleton_append]

/-- Records are joined in two parts as they are all at once. -/
theorem joinAll_append (row : Row) (entries more : List (String × Option Record)) :
    row.joinAll (entries ++ more) = (row.joinAll entries).joinAll more := by
  simp only [joinAll, List.append_assoc]

end Row

namespace Link

/-! ### Trees of links -/

/-- What holds of no links, and of a link and its siblings after those below it and the siblings,
holds of all links. -/
@[elab_as_elim]
theorem forest_induction {motive : List Link → Prop} (nil : motive [])
    (cons : ∀ l ls, motive l.links → motive ls → motive (l :: ls)) (ls : List Link) :
    motive ls := by
  -- the recursor goes through the links one by one, with what holds of those below each
  refine @Link.rec_1 (fun l => motive l.links) motive ?_ nil ?_ ls
  · intro _ _ _ _ _ _ _ _ _ hbelow
    exact hbelow
  · exact cons

mutual

/-- A link and those below it, in preorder. -/
def within : Link → List Link
  | ⟨fromEntity, fromName, toEntity, toName, type, label, criteria, links, columns⟩ =>
    ⟨fromEntity, fromName, toEntity, toName, type, label, criteria, links, columns⟩ ::
      withinAll links

/-- Some links and those below them, in preorder. -/
def withinAll : List Link → List Link
  | [] => []
  | l :: ls => l.within ++ withinAll ls

end

/-- A link comes first, before those below it. -/
theorem within_eq (l : Link) : l.within = l :: withinAll l.links := by
  cases l
  rfl

/-- Below a link comes before next to it. -/
theorem withinAll_cons (l : Link) (ls : List Link) :
    withinAll (l :: ls) = l :: (withinAll l.links ++ withinAll ls) := by
  rw [withinAll, within_eq, List.cons_append]

/-! ### Where links start -/

/-- The links below a link start from what it has joined. -/
theorem source?_join_self (row : Row) (name : String) (r : Option Record) :
    source? (some name) (row.join name r) = r := by
  rw [source?, Row.link?_join, if_pos (Text.eqIgnoreCase_self name)]
  rfl

/-- What is joined under another name than that of the parent leaves where a link starts. -/
theorem source?_join_of_ne {parent : Option String} {row : Row} {name : String}
    (h : ∀ owner ∈ parent, Text.eqIgnoreCase name owner = false) (r : Option Record) :
    source? parent (row.join name r) = source? parent row := by
  cases parent with
  | none => rfl
  | some owner => rw [source?, source?, Row.link?_join, if_neg (Bool.eq_false_iff.1 (h owner rfl))]

/-! ### What a link makes of a row -/

/-- The records that a link finds for a row. -/
def found (tables : Tables) (parent : Option String) (l : Link) (row : Row) : List Record :=
  (candidates tables l.toEntity l.toName (key tables parent l.fromName row)).filter fun r =>
    (scope tables l.referenceName row r).holds l.criteria

/-- The rows that a link makes of a row with the records that it finds. -/
def matched (tables : Tables) (parent : Option String) (l : Link) (row : Row) : List Row :=
  (l.found tables parent row).flatMap fun r =>
    extendAll tables (some l.referenceName) l.links [row.join l.referenceName (some r)]

/-- The rows that a link makes of a row without a record. -/
def unmatched (tables : Tables) (l : Link) (row : Row) : List Row :=
  extendAll tables (some l.referenceName) l.links [row.join l.referenceName none]

variable {tables : Tables} {parent : Option String}

/-- What a link makes of a row: the rows with the records that it found, or else what its type makes
of having found none. -/
theorem extend_singleton (l : Link) (row : Row) :
    l.extend tables parent [row] =
      orAlone l.type (l.matched tables parent row) (l.unmatched tables row) := by
  cases l
  rw [extend, List.flatMap_singleton]
  rfl

/-- An inner link keeps only rows with a record. -/
theorem orAlone_inner (extended alone : List Row) : orAlone .inner extended alone = extended :=
  if_neg (by simp)

/-- An outer link keeps the row without a record exactly if there is none with one. -/
theorem orAlone_leftOuter (extended alone : List Row) :
    orAlone .leftOuter extended alone = if extended = [] then alone else extended := by
  unfold orAlone
  cases extended <;> rfl

/-- A link makes rows out of each row by itself. -/
theorem extend_eq_flatMap (l : Link) (rows : List Row) :
    l.extend tables parent rows = rows.flatMap fun row => l.extend tables parent [row] := by
  cases l
  simp only [extend, List.flatMap_singleton]

/-- Several links make rows out of each row by itself, too. -/
theorem extendAll_eq_flatMap (ls : List Link) (rows : List Row) :
    extendAll tables parent ls rows = rows.flatMap fun row => extendAll tables parent ls [row] := by
  induction ls generalizing rows with
  | nil => simp only [extendAll, List.flatMap_singleton']
  | cons l ls ih =>
    simp only [extendAll]
    -- what the link makes of all rows, and then of each, goes on to the other links
    rw [ih, extend_eq_flatMap, List.flatMap_assoc]
    refine congrArg List.flatten (List.map_congr_left fun row _ => ?_)
    exact (ih _).symm

/-- What a link makes of a row goes on to its siblings row by row. -/
theorem extendAll_cons_singleton (l : Link) (ls : List Link) (row : Row) :
    extendAll tables parent (l :: ls) [row] =
      (l.extend tables parent [row]).flatMap fun row' => extendAll tables parent ls [row'] :=
  extendAll_eq_flatMap ls _

/-! ### Rows are extended -/

/-- What a link makes of a row comes from the row with a record that it found, or with none. -/
theorem exists_join_of_mem_extend {l : Link} {row row' : Row}
    (h : row' ∈ l.extend tables parent [row]) :
    ∃ r, row' ∈ extendAll tables (some l.referenceName) l.links [row.join l.referenceName r] := by
  rw [extend_singleton, orAlone] at h
  split at h
  · exact ⟨none, h⟩
  · obtain ⟨r, -, hr⟩ := List.mem_flatMap.1 h
    exact ⟨some r, hr⟩

/-- What several links make of a row extends it, by induction on the forest of links. -/
theorem extends_of_mem_extendAll {ls : List Link} {row row' : Row}
    (h : row' ∈ extendAll tables parent ls [row]) : row'.Extends row := by
  induction ls using forest_induction generalizing parent row row' with
  | nil => exact List.mem_singleton.1 h ▸ Row.Extends.refl row
  | cons l ls ihLinks ihRest =>
    rw [extendAll_cons_singleton] at h
    obtain ⟨middle, hmiddle, hrest⟩ := List.mem_flatMap.1 h
    obtain ⟨r, hr⟩ := exists_join_of_mem_extend hmiddle
    exact (ihRest hrest).trans ((ihLinks hr).trans (row.extends_join _ _))

/-- **Extension.** What a link makes of a row extends it. -/
theorem extends_of_mem_extend {l : Link} {row row' : Row}
    (h : row' ∈ l.extend tables parent [row]) : row'.Extends row := by
  have hforest : row' ∈ extendAll tables parent [l] [row] := h
  exact extends_of_mem_extendAll hforest

end Link

end RecordService
