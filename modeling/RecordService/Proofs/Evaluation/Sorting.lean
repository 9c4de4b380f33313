import RecordService.Evaluation.Sorting
import RecordService.Proofs.Reading.Counting
import RecordService.Proofs.Value.Order

namespace RecordService

/-!
# Sorted rows

Rows are sorted in the lexicographic order of their keys, and rows that no key tells apart keep
their order. This takes keys that read values of one kind each, doubles excepted: then the
comparison of rows is a total preorder.

* `Row.Precedes`: the lexicographic order, in which a null comes first where a key ascends and last
  where it descends. `Row.TiedBy`: rows that no key tells apart.
* `Row.compareRows_eq_compareRanks`: the comparison of rows agrees with a total preorder.
* `Row.sort_stable`: what is sorted is a permutation, in order and stable.
-/

/-! ### The lexicographic order -/

namespace SortKey

/-- The value that a key reads from one row goes before the one from another row: by comparison, and
a null goes before all others where values ascend and behind them where they descend. -/
def Puts (tables : Tables) (a b : Row) (k : SortKey) : Prop :=
  let v := k.valueIn tables a
  let w := k.valueIn tables b
  match k.direction with
  | .ascending => v.isNull = true ∧ w.isNull = false ∨ v.compare? w = some .lt
  | .descending => v.isNull = false ∧ w.isNull = true ∨ v.compare? w = some .gt

/-- A key reads nulls from both of two rows, or values that are equal by comparison. -/
def Ties (tables : Tables) (a b : Row) (k : SortKey) : Prop :=
  let v := k.valueIn tables a
  let w := k.valueIn tables b
  v.isNull = true ∧ w.isNull = true ∨ v.compare? w = some .eq

instance (tables : Tables) (a b : Row) (k : SortKey) : Decidable (k.Ties tables a b) :=
  inferInstanceAs (Decidable (_ ∨ _))

/-- The values that a key reads from some rows are of one kind, which is not that of doubles. Nulls
may be of any kind. -/
def IsUniform (tables : Tables) (rows : List Row) (k : SortKey) : Prop :=
  ∃ kind, kind ≠ ValueKind.double ∧ ∀ row ∈ rows,
    (k.valueIn tables row).isNull = false → (k.valueIn tables row).kind = kind

end SortKey

namespace Row

/-- No key tells two rows apart. -/
def TiedBy (tables : Tables) (keys : List SortKey) (a b : Row) : Prop :=
  ∀ k ∈ keys, k.Ties tables a b

instance (tables : Tables) (keys : List SortKey) (a b : Row) :
    Decidable (a.TiedBy tables keys b) :=
  inferInstanceAs (Decidable (∀ k ∈ keys, k.Ties tables a b))

/-- A row goes before another one: the first key that tells them apart puts it there. -/
def Precedes (tables : Tables) (keys : List SortKey) (a b : Row) : Prop :=
  ∃ before k after, keys = before ++ k :: after ∧ a.TiedBy tables before b ∧ k.Puts tables a b

variable {tables : Tables} {k : SortKey} {keys : List SortKey} {a b : Row}

/-- Keys tie two rows exactly if the first does, and so do the others. -/
theorem tiedBy_cons :
    a.TiedBy tables (k :: keys) b ↔ k.Ties tables a b ∧ a.TiedBy tables keys b :=
  List.forall_mem_cons

/-- Without keys no row goes before another one. -/
theorem not_precedes_nil : ¬a.Precedes tables [] b := by
  rintro ⟨before, k, after, hkeys, -, -⟩
  cases before <;> exact nomatch hkeys

/-- The order of the first key, or else that of the other keys. -/
theorem precedes_cons :
    a.Precedes tables (k :: keys) b ↔
      k.Puts tables a b ∨ k.Ties tables a b ∧ a.Precedes tables keys b := by
  constructor
  · rintro ⟨before, k', after, hkeys, hbefore, hputs⟩
    cases before with
    | nil =>
      cases hkeys
      exact .inl hputs
    | cons first before =>
      cases hkeys
      obtain ⟨hfirst, hbefore⟩ := tiedBy_cons.1 hbefore
      exact .inr ⟨hfirst, before, k', after, rfl, hbefore, hputs⟩
  · rintro (hputs | ⟨hties, before, k', after, rfl, hbefore, hputs⟩)
    · exact ⟨[], k, keys, rfl, nofun, hputs⟩
    · exact ⟨k :: before, k', after, rfl, tiedBy_cons.2 ⟨hties, hbefore⟩, hputs⟩

end Row

/-! ### Comparison by a key -/

namespace SortKey

/-- A value goes first if it is smaller by comparison, or the only null. -/
theorem compareValues_eq_lt_iff {v w : Value} :
    compareValues v w = .lt ↔
      v.isNull = true ∧ w.isNull = false ∨ v.compare? w = some .lt := by
  unfold compareValues
  cases hv : v.isNull <;> cases hw : w.isNull
  case false.false =>
    cases v.compare? w <;> simp
  -- a null does not compare
  all_goals simp [Value.compare?_of_isNull, hv, hw]

/-- A value goes last if it is greater by comparison, or the only one that is no null. -/
theorem compareValues_eq_gt_iff {v w : Value} :
    compareValues v w = .gt ↔
      v.isNull = false ∧ w.isNull = true ∨ v.compare? w = some .gt := by
  unfold compareValues
  cases hv : v.isNull <;> cases hw : w.isNull
  case false.false =>
    cases v.compare? w <;> simp
  all_goals simp [Value.compare?_of_isNull, hv, hw]

/-- Values are equal, or nulls both, unless they do not compare. -/
theorem compareValues_eq_eq_iff {v w : Value}
    (h : v.isNull = false → w.isNull = false → (v.compare? w).isSome) :
    compareValues v w = .eq ↔
      v.isNull = true ∧ w.isNull = true ∨ v.compare? w = some .eq := by
  unfold compareValues
  cases hv : v.isNull <;> cases hw : w.isNull
  case false.false =>
    obtain ⟨o, ho⟩ := Option.isSome_iff_exists.1 (h hv hw)
    simp [ho]
  all_goals simp [Value.compare?_of_isNull, hv, hw]

variable {tables : Tables} {rows : List Row} {k : SortKey} {a b : Row}

/-- A key compares a row as the smaller one exactly where it puts it first, in either direction. -/
theorem compareBy_eq_lt_iff : k.compareBy tables a b = .lt ↔ k.Puts tables a b := by
  unfold compareBy directed Puts
  cases k.direction
  case ascending => exact compareValues_eq_lt_iff
  case descending => exact Ordering.swap_eq_lt.trans compareValues_eq_gt_iff

/-- Values that a uniform key reads compare by their ranks, unless one of them is a null. -/
theorem IsUniform.compare? (h : k.IsUniform tables rows) (ha : a ∈ rows) (hb : b ∈ rows)
    (hv : (k.valueIn tables a).isNull = false) (hw : (k.valueIn tables b).isNull = false) :
    (k.valueIn tables a).compare? (k.valueIn tables b) =
      some ((k.valueIn tables a).compareRank (k.valueIn tables b)) := by
  obtain ⟨kind, hdouble, hkind⟩ := h
  have hva := hkind a ha hv
  have hwb := hkind b hb hw
  exact Value.compare?_eq_compareRank hv hw (hva.trans hwb.symm) (hva ▸ hdouble)

/-- A uniform key compares two rows as equal exactly if it ties them. -/
theorem IsUniform.compareBy_eq_eq_iff (h : k.IsUniform tables rows) (ha : a ∈ rows)
    (hb : b ∈ rows) : k.compareBy tables a b = .eq ↔ k.Ties tables a b := by
  have hvalues : compareValues (k.valueIn tables a) (k.valueIn tables b) = .eq ↔
      k.Ties tables a b := by
    apply compareValues_eq_eq_iff
    intro hv hw
    rw [h.compare? ha hb hv hw]
    rfl
  unfold compareBy directed
  cases k.direction
  case ascending => exact hvalues
  case descending => exact Ordering.swap_eq_eq.trans hvalues

/-! ### A total preorder -/

/-- The comparison of two rows by the ranks of what a key reads. -/
def compareRankBy (tables : Tables) (k : SortKey) (a b : Row) : Ordering :=
  k.directed ((k.valueIn tables a).compareRank (k.valueIn tables b))

instance (tables : Tables) (k : SortKey) : Std.TransCmp (k.compareRankBy tables) := by
  have hranks : Std.TransCmp fun a b : Row =>
      (k.valueIn tables a).compareRank (k.valueIn tables b) :=
    { eq_swap := Std.OrientedCmp.eq_swap, isLE_trans := Std.TransCmp.isLE_trans }
  unfold compareRankBy directed
  cases k.direction with
  | ascending => exact hranks
  | descending =>
    -- the order from behind
    have hswap : ∀ v w : Value, v.compareRank w = (w.compareRank v).swap :=
      fun _ _ => Std.OrientedCmp.eq_swap
    simp only [← hswap]
    exact Std.TransCmp.opposite

/-- The comparison of two rows by some keys, each by the ranks of what it reads. -/
def compareRanks (tables : Tables) : List SortKey → Row → Row → Ordering
  | [] => fun _ _ => .eq
  | k :: ks => compareLex (k.compareRankBy tables) (compareRanks tables ks)

instance (tables : Tables) (keys : List SortKey) : Std.TransCmp (compareRanks tables keys) := by
  induction keys with
  | nil => exact { eq_swap := rfl, isLE_trans := fun _ _ => rfl }
  | cons k ks ih => exact inferInstanceAs (Std.TransCmp (compareLex _ _))

/-- A null has the first rank, and other values that a uniform key reads compare by their ranks. -/
theorem IsUniform.compareBy_eq (h : k.IsUniform tables rows) (ha : a ∈ rows) (hb : b ∈ rows) :
    k.compareBy tables a b = k.compareRankBy tables a b := by
  have hdouble : ∀ row ∈ rows, (k.valueIn tables row).isNull = false →
      (k.valueIn tables row).kind ≠ .double := by
    obtain ⟨kind, hdouble, hkind⟩ := h
    intro row hrow hvalue
    exact hkind row hrow hvalue ▸ hdouble
  unfold compareBy compareRankBy
  congr 1
  unfold compareValues
  cases hv : (k.valueIn tables a).isNull <;> cases hw : (k.valueIn tables b).isNull
  case true.true => exact (Value.compareRank_eq_eq_of_isNull hv hw).symm
  case true.false => exact (Value.compareRank_eq_lt_of_isNull hv hw (hdouble b hb hw)).symm
  case false.true =>
    have hlt := Value.compareRank_eq_lt_of_isNull hw hv (hdouble a ha hv)
    exact (Std.OrientedCmp.gt_of_lt hlt).symm
  case false.false =>
    rw [h.compare? ha hb hv hw]
    rfl

end SortKey

/-! ### Comparison of rows -/

namespace Row

section

variable {tables : Tables} {rows : List Row} {keys : List SortKey} {a b : Row}

/-- **Total preorder.** The comparison of rows by keys that are uniform on them is that of the
ranks. -/
theorem compareRows_eq_compareRanks (h : ∀ k ∈ keys, k.IsUniform tables rows) (ha : a ∈ rows)
    (hb : b ∈ rows) :
    SortKey.compareRows tables keys a b = SortKey.compareRanks tables keys a b := by
  induction keys with
  | nil => rfl
  | cons k keys ih =>
    obtain ⟨hk, hkeys⟩ := List.forall_mem_cons.1 h
    rw [SortKey.compareRows, hk.compareBy_eq ha hb, ih hkeys]
    rfl

/-- Uniform keys compare two rows as equal exactly if all of them tie them. -/
theorem compareRows_eq_eq_iff (h : ∀ k ∈ keys, k.IsUniform tables rows) (ha : a ∈ rows)
    (hb : b ∈ rows) : SortKey.compareRows tables keys a b = .eq ↔ a.TiedBy tables keys b := by
  induction keys with
  | nil => exact iff_of_true rfl nofun
  | cons k keys ih =>
    obtain ⟨hk, hkeys⟩ := List.forall_mem_cons.1 h
    rw [SortKey.compareRows, Ordering.then_eq_eq, tiedBy_cons, hk.compareBy_eq_eq_iff ha hb,
      ih hkeys]

/-- Uniform keys compare a row as the smaller one exactly if it precedes the other one. -/
theorem compareRows_eq_lt_iff (h : ∀ k ∈ keys, k.IsUniform tables rows) (ha : a ∈ rows)
    (hb : b ∈ rows) : SortKey.compareRows tables keys a b = .lt ↔ a.Precedes tables keys b := by
  induction keys with
  | nil => exact iff_of_false nofun not_precedes_nil
  | cons k keys ih =>
    obtain ⟨hk, hkeys⟩ := List.forall_mem_cons.1 h
    rw [SortKey.compareRows, Ordering.then_eq_lt, precedes_cons, SortKey.compareBy_eq_lt_iff,
      hk.compareBy_eq_eq_iff ha hb, ih hkeys]

end

/-! ### Insertion -/

section

variable {tables : Tables} {rows : List Row} {keys : List SortKey}

/-- Rows from the last to the first: none is less than one that comes after it in the list. -/
def Descends (tables : Tables) (keys : List SortKey) (sorted : List Row) : Prop :=
  sorted.Pairwise fun later earlier => SortKey.compareRows tables keys later earlier ≠ .lt

/-- Whatever is inserted comes from the rows at hand, on which the keys are uniform. -/
theorem insertSorted_subset {row : Row} (hrow : row ∈ rows) {sorted : List Row}
    (hsub : sorted ⊆ rows) : insertSorted tables keys row sorted ⊆ rows := by
  apply List.Subset.trans (insertSorted_perm tables keys row sorted).subset
  exact List.cons_subset.2 ⟨hrow, hsub⟩

/-- **Insertion step.** A row is inserted into sorted rows so that they stay sorted. -/
theorem descends_insertSorted (h : ∀ k ∈ keys, k.IsUniform tables rows) {row : Row}
    (hrow : row ∈ rows) {sorted : List Row} (hsub : sorted ⊆ rows)
    (hsorted : Descends tables keys sorted) :
    Descends tables keys (insertSorted tables keys row sorted) := by
  induction sorted with
  | nil => exact List.pairwise_singleton _ _
  | cons last rest ih =>
    obtain ⟨hlast, hrest⟩ := List.cons_subset.1 hsub
    obtain ⟨hbelow, hdescends⟩ := List.pairwise_cons.1 hsorted
    unfold insertSorted
    by_cases hlt : SortKey.compareRows tables keys row last = .lt
    · rw [if_pos (beq_iff_eq.2 hlt)]
      refine List.pairwise_cons.2 ⟨?_, ih hrest hdescends⟩
      intro x hx
      rcases List.mem_cons.1 ((insertSorted_perm tables keys row rest).subset hx) with rfl | hx
      · -- what is less than the last row is not greater than it
        rw [compareRows_eq_compareRanks h hrow hlast] at hlt
        rw [compareRows_eq_compareRanks h hlast hrow, Std.OrientedCmp.gt_of_lt hlt]
        decide
      · exact hbelow x hx
    · rw [if_neg fun heq => hlt (beq_iff_eq.1 heq)]
      refine List.pairwise_cons.2 ⟨?_, hsorted⟩
      intro x hx
      rcases List.mem_cons.1 hx with rfl | hx
      · exact hlt
      · -- the last row is between them
        have hfirst := Ordering.isGE_iff_ne_lt.2 hlt
        have hsecond := Ordering.isGE_iff_ne_lt.2 (hbelow x hx)
        rw [compareRows_eq_compareRanks h hrow hlast] at hfirst
        rw [compareRows_eq_compareRanks h hlast (hrest hx)] at hsecond
        rw [compareRows_eq_compareRanks h hrow (hrest hx)]
        exact Ordering.isGE_iff_ne_lt.1 (Std.TransCmp.isGE_trans hfirst hsecond)

/-- Among the rows that are tied with some row, an inserted one comes last. -/
theorem filter_insertSorted (h : ∀ k ∈ keys, k.IsUniform tables rows) {a row : Row} (ha : a ∈ rows)
    (hrow : row ∈ rows) {sorted : List Row} (hsub : sorted ⊆ rows) :
    (insertSorted tables keys row sorted).filter (fun b => a.TiedBy tables keys b) =
      (row :: sorted).filter fun b => a.TiedBy tables keys b := by
  induction sorted with
  | nil => rfl
  | cons last rest ih =>
    obtain ⟨hlast, hrest⟩ := List.cons_subset.1 hsub
    unfold insertSorted
    by_cases hlt : SortKey.compareRows tables keys row last = .lt
    · rw [if_pos (beq_iff_eq.2 hlt), List.filter_cons, ih hrest]
      by_cases hp : a.TiedBy tables keys last
      · -- then the inserted row, which is less, is not tied as well
        have hless : ¬a.TiedBy tables keys row := by
          intro hties
          rw [← compareRows_eq_eq_iff h ha hrow, compareRows_eq_compareRanks h ha hrow] at hties
          rw [← compareRows_eq_eq_iff h ha hlast, compareRows_eq_compareRanks h ha hlast] at hp
          rw [compareRows_eq_compareRanks h hrow hlast] at hlt
          have hlast_less := Std.TransCmp.lt_of_eq_of_lt hties hlt
          exact absurd (hp.symm.trans hlast_less) (by decide)
        simp [hp, hless]
      · simp [List.filter_cons, hp]
    · rw [if_neg fun heq => hlt (beq_iff_eq.1 heq)]

/-! ### Sorting -/

/-- **Sorting run.** Rows are sorted onto sorted ones. -/
theorem descends_sortOnto (h : ∀ k ∈ keys, k.IsUniform tables rows) {sorted rest : List Row}
    (hsub : sorted ⊆ rows) (hrest : rest ⊆ rows) (hsorted : Descends tables keys sorted) :
    Descends tables keys (sortOnto tables keys sorted rest) := by
  induction rest generalizing sorted with
  | nil => exact hsorted
  | cons row rest ih =>
    obtain ⟨hrow, hrest⟩ := List.cons_subset.1 hrest
    exact ih (insertSorted_subset hrow hsub) hrest (descends_insertSorted h hrow hsub hsorted)

/-- Rows that are tied with some row come onto one another in their order. -/
theorem filter_sortOnto (h : ∀ k ∈ keys, k.IsUniform tables rows) {a : Row} (ha : a ∈ rows)
    {sorted rest : List Row} (hsub : sorted ⊆ rows) (hrest : rest ⊆ rows) :
    (sortOnto tables keys sorted rest).filter (fun b => a.TiedBy tables keys b) =
      (rest.reverse ++ sorted).filter fun b => a.TiedBy tables keys b := by
  induction rest generalizing sorted with
  | nil => rfl
  | cons row rest ih =>
    obtain ⟨hrow, hrest⟩ := List.cons_subset.1 hrest
    rw [sortOnto, ih (insertSorted_subset hrow hsub) hrest, List.filter_append,
      filter_insertSorted h ha hrow hsub, ← List.filter_append, List.reverse_cons,
      List.append_assoc, List.singleton_append]

/-- **Stable sorting.** Rows are sorted by keys that are uniform on them into a permutation in which
no row goes before an earlier one, and in which the rows that are tied with any of them are the same
as before, in the same order. -/
theorem sort_stable (h : ∀ k ∈ keys, k.IsUniform tables rows) :
    (sort tables keys rows).Perm rows ∧
      (sort tables keys rows).Pairwise (fun earlier later => ¬later.Precedes tables keys earlier) ∧
      ∀ a ∈ rows, (sort tables keys rows).filter (fun b => a.TiedBy tables keys b) =
        rows.filter fun b => a.TiedBy tables keys b := by
  refine ⟨sort_perm tables keys rows, ?_⟩
  unfold sort
  by_cases hkeys : keys.isEmpty = true
  · rw [if_pos hkeys, List.isEmpty_iff.1 hkeys]
    exact ⟨List.pairwise_of_forall fun _ _ => not_precedes_nil, fun _ _ => rfl⟩
  rw [if_neg hkeys]
  have hall : rows ⊆ rows := List.Subset.refl rows
  have hnone : ([] : List Row) ⊆ rows := List.nil_subset rows
  constructor
  · have hdescends := descends_sortOnto h hnone hall List.Pairwise.nil
    rw [List.pairwise_reverse]
    refine hdescends.imp_of_mem ?_
    intro later earlier hlater hearlier hge
    have hsub := (sortOnto_perm tables keys [] rows).subset
    rw [← compareRows_eq_lt_iff h (hsub hlater) (hsub hearlier)]
    exact hge
  · intro a ha
    rw [List.filter_reverse, filter_sortOnto h ha hnone hall, List.append_nil, List.filter_reverse,
      List.reverse_reverse]

end

namespace Sample

def tables : Tables := .ofCatalog .empty

/-- An order of a customer, if one is known, with an amount in tenths. -/
def order (id : Nat) (customer : Option String) (tenths : Fin 100) : Row :=
  .ofRecord ⟨"order", some (.numbered id),
    .ofList [("customer", .text customer),
      ("amount", .decimal (some ⟨false, tenths, 1, by omega, by decide⟩))]⟩

/-- Orders of which two have the same customer but for letter case, and one has none. -/
def orders : List Row :=
  [order 1 (some "bob") 15, order 2 none 20, order 3 (some "Bob") 15, order 4 (some "BOB") 7]

/-- By customer from the last to the first, then by amount. -/
def keys : List SortKey :=
  [⟨"customer", .descending⟩, ⟨"amount", .ascending⟩]

/-- The keys of the orders read no doubles, and each reads values of one kind. -/
theorem isUniform_keys : ∀ k ∈ keys, k.IsUniform tables orders := by
  intro k hk
  rcases List.mem_pair.1 hk with rfl | rfl
  · exact ⟨.text, by decide, by decide +kernel⟩
  · exact ⟨.decimal, by decide, by decide +kernel⟩

end Sample

/-- The order without a customer comes last, and the two that no key tells apart stay as they
were. -/
theorem sort_stable_orders :
    (∀ k ∈ Sample.keys, k.IsUniform Sample.tables Sample.orders) ∧
      sort Sample.tables Sample.keys Sample.orders =
        [Sample.order 4 (some "BOB") 7, Sample.order 1 (some "bob") 15,
          Sample.order 3 (some "Bob") 15, Sample.order 2 none 20] ∧
      (sort Sample.tables Sample.keys Sample.orders).Perm Sample.orders ∧
      (sort Sample.tables Sample.keys Sample.orders).Pairwise (fun earlier later =>
        ¬later.Precedes Sample.tables Sample.keys earlier) ∧
      (sort Sample.tables Sample.keys Sample.orders).filter
          (fun b => (Sample.order 1 (some "bob") 15).TiedBy Sample.tables Sample.keys b) =
        [Sample.order 1 (some "bob") 15, Sample.order 3 (some "Bob") 15] := by
  obtain ⟨hperm, hordered, htied⟩ := sort_stable Sample.isUniform_keys
  refine ⟨Sample.isUniform_keys, by decide +kernel, hperm, hordered, ?_⟩
  rw [htied _ List.mem_cons_self]
  decide +kernel

end Row

end RecordService
