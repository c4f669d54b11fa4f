import Mathlib.Data.List.Nodup
import Mathlib.Data.List.Perm.Subperm
import Mathlib.Data.List.Dedup
import Mathlib.Data.List.Basic
import Mathlib.Tactic.Common

/-!
# Tables as lists of keyed rows

A table is a list of rows in insertion order, together with a function that reads the primary key of
a row. This module collects the row operations that SQL statements reduce to — replace the row of a
key, rewrite every row that a predicate selects, take the first row in an order — and the facts an
invariant proof needs about each: which rows are in the result, that the keys are unchanged, and how
a count over the table moves.

Uniqueness of keys is the hypothesis `(rows.map key).Nodup` throughout, never a field of the table,
so that a table with a violated key can be written down and shown unreachable.
-/

namespace Relational

variable {ρ κ : Type*}

/-! ## Keys -/

theorem eq_of_key_eq {key : ρ → κ} {rows : List ρ} (hkeys : (rows.map key).Nodup) {r r' : ρ}
    (hr : r ∈ rows) (hr' : r' ∈ rows) (h : key r = key r') : r = r' :=
  List.inj_on_of_nodup_map hkeys hr hr' h

theorem find?_key_eq_some [DecidableEq κ] {key : ρ → κ} {rows : List ρ}
    (hkeys : (rows.map key).Nodup) {k : κ} {r : ρ} :
    rows.find? (fun row ↦ key row = k) = some r ↔ r ∈ rows ∧ key r = k := by
  constructor
  · intro h
    have hkey := List.find?_some h
    simp only [decide_eq_true_eq] at hkey
    exact ⟨List.mem_of_find?_eq_some h, hkey⟩
  · rintro ⟨hr, rfl⟩
    cases hfind : rows.find? fun row ↦ key row = key r with
    | none =>
      have := List.find?_eq_none.1 hfind r hr
      simp at this
    | some row =>
      have hkey := List.find?_some hfind
      simp only [decide_eq_true_eq] at hkey
      rw [eq_of_key_eq hkeys (List.mem_of_find?_eq_some hfind) hr hkey]

theorem nodup_keys_append {key : ρ → κ} {rows : List ρ} {new : ρ} (hkeys : (rows.map key).Nodup)
    (hnew : ∀ r ∈ rows, key r ≠ key new) : ((rows ++ [new]).map key).Nodup := by
  rw [List.map_append, List.nodup_append]
  refine ⟨hkeys, by simp, ?_⟩
  simp only [List.mem_map, List.map_cons, List.map_nil, List.mem_singleton]
  rintro _ ⟨r, hr, rfl⟩ _ rfl
  exact hnew r hr

theorem nodup_keys_filter {key : ρ → κ} {rows : List ρ} (hkeys : (rows.map key).Nodup)
    (p : ρ → Bool) : ((rows.filter p).map key).Nodup :=
  hkeys.sublist (List.filter_sublist.map key)

/-- A count is bounded by the count of the rows of another table with the same keys. -/
theorem countP_le_of_keys_eq {ρ' : Type*} {key : ρ → κ} {key' : ρ' → κ} {p : ρ → Bool}
    {p' : ρ' → Bool} {rows : List ρ} {rows' : List ρ'}
    (hkeys : ((rows'.filter p').map key').Nodup)
    (h : ∀ r' ∈ rows', p' r' = true → ∃ r ∈ rows, key r = key' r' ∧ p r = true) :
    rows'.countP p' ≤ rows.countP p := by
  have hsub : (rows'.filter p').map key' ⊆ (rows.filter p).map key := by
    intro k hk
    obtain ⟨r', hr', rfl⟩ := List.mem_map.1 hk
    obtain ⟨hr', hp'⟩ := List.mem_filter.1 hr'
    obtain ⟨r, hr, hkey, hp⟩ := h r' hr' hp'
    exact hkey ▸ List.mem_map_of_mem (List.mem_filter.2 ⟨hr, hp⟩)
  have hlength := (hkeys.subperm hsub).length_le
  rw [List.countP_eq_length_filter, List.countP_eq_length_filter]
  simpa only [List.length_map] using hlength

/-- A count is bounded by the count of the rows with the same keys. -/
theorem countP_le_of_keys {key : ρ → κ} {p p' : ρ → Bool} {rows rows' : List ρ}
    (hkeys : (rows'.map key).Nodup)
    (h : ∀ r' ∈ rows', p' r' = true → ∃ r ∈ rows, key r = key r' ∧ p r = true) :
    rows'.countP p' ≤ rows.countP p :=
  countP_le_of_keys_eq (nodup_keys_filter hkeys p') h

theorem countP_key_le_one [DecidableEq κ] {key : ρ → κ} {rows : List ρ}
    (hkeys : (rows.map key).Nodup) (k : κ) : rows.countP (fun r ↦ key r = k) ≤ 1 := by
  have hcount := List.nodup_iff_count_le_one.1 hkeys k
  rwa [List.count_eq_countP, List.countP_map] at hcount

/-- A count of rows that have one of two properties. -/
theorem countP_le_add {rows : List ρ} {p q r : ρ → Bool}
    (h : ∀ row ∈ rows, p row = true → q row = true ∨ r row = true) :
    rows.countP p ≤ rows.countP q + rows.countP r := by
  induction rows with
  | nil => simp
  | cons row rows ih =>
    have hrows := ih fun other hother ↦ h other (List.mem_cons_of_mem row hother)
    rw [List.countP_cons, List.countP_cons, List.countP_cons]
    by_cases hp : p row = true
    · rcases h row List.mem_cons_self hp with hq | hr
      · rw [if_pos hp, if_pos hq]
        omega
      · rw [if_pos hp, if_pos hr]
        omega
    · rw [if_neg hp]
      omega

/-! ## Replacing the row of a key -/

section Replace

variable [DecidableEq κ] (key : ρ → κ)

/-- `UPDATE … WHERE key = key new`, with the whole new row given. -/
def replaceRow (new : ρ) (rows : List ρ) : List ρ :=
  rows.map fun row ↦ if key row = key new then new else row

variable {key}

theorem mem_replaceRow {new r : ρ} {rows : List ρ} (h : r ∈ replaceRow key new rows) :
    r = new ∨ (r ∈ rows ∧ key r ≠ key new) := by
  obtain ⟨row, hrow, rfl⟩ := List.mem_map.1 h
  by_cases hk : key row = key new
  · exact .inl (if_pos hk)
  · rw [if_neg hk]
    exact .inr ⟨hrow, hk⟩

theorem mem_replaceRow_of_ne {new r : ρ} {rows : List ρ} (hr : r ∈ rows) (hk : key r ≠ key new) :
    r ∈ replaceRow key new rows :=
  List.mem_map.2 ⟨r, hr, if_neg hk⟩

theorem new_mem_replaceRow {new old : ρ} {rows : List ρ} (hold : old ∈ rows)
    (hk : key old = key new) : new ∈ replaceRow key new rows :=
  List.mem_map.2 ⟨old, hold, if_pos hk⟩

theorem mem_replaceRow_iff {new old r : ρ} {rows : List ρ} (hold : old ∈ rows)
    (hk : key old = key new) :
    r ∈ replaceRow key new rows ↔ r = new ∨ (r ∈ rows ∧ key r ≠ key new) := by
  refine ⟨mem_replaceRow, ?_⟩
  rintro (rfl | ⟨hr, hne⟩)
  · exact new_mem_replaceRow hold hk
  · exact mem_replaceRow_of_ne hr hne

@[simp] theorem map_key_replaceRow (new : ρ) (rows : List ρ) :
    (replaceRow key new rows).map key = rows.map key := by
  rw [replaceRow, List.map_map]
  refine List.map_congr_left fun row _ ↦ ?_
  by_cases hk : key row = key new
  · simp [hk]
  · simp [hk]

/-- A column that the new row shares with every row of its key is unchanged as a whole. -/
theorem map_replaceRow_eq {β : Type*} (col : ρ → β) {new : ρ} {rows : List ρ}
    (h : ∀ r ∈ rows, key r = key new → col r = col new) :
    (replaceRow key new rows).map col = rows.map col := by
  rw [replaceRow, List.map_map]
  refine List.map_congr_left fun row hrow ↦ ?_
  by_cases hk : key row = key new
  · simp [hk, h row hrow hk]
  · simp [hk]

theorem replaceRow_eq_self {new : ρ} {rows : List ρ} (h : ∀ r ∈ rows, key r ≠ key new) :
    replaceRow key new rows = rows := by
  rw [replaceRow]
  conv_rhs => rw [← List.map_id rows]
  exact List.map_congr_left fun row hrow ↦ by simp [h row hrow]

theorem replaceRow_self {row : ρ} {rows : List ρ} (hkeys : (rows.map key).Nodup)
    (hrow : row ∈ rows) : replaceRow key row rows = rows := by
  rw [replaceRow]
  conv_rhs => rw [← List.map_id rows]
  refine List.map_congr_left fun r hr ↦ ?_
  by_cases hk : key r = key row
  · rw [if_pos hk, eq_of_key_eq hkeys hr hrow hk, id]
  · rw [if_neg hk, id]

theorem replaceRow_replaceRow {new new' : ρ} (hk : key new = key new') (rows : List ρ) :
    replaceRow key new' (replaceRow key new rows) = replaceRow key new' rows := by
  rw [replaceRow, replaceRow, replaceRow, List.map_map]
  refine List.map_congr_left fun r _ ↦ ?_
  by_cases hr : key r = key new
  · simp [hr, hk]
  · have hr' : key r ≠ key new' := fun h ↦ hr (h.trans hk.symm)
    simp [hr, hr']

/-- A projection of rows that keeps the key commutes with a replacement. -/
theorem map_replaceRow {ρ' : Type*} (key' : ρ' → κ) {f : ρ → ρ'} (hf : ∀ r, key' (f r) = key r)
    (new : ρ) (rows : List ρ) :
    (replaceRow key new rows).map f = replaceRow key' (f new) (rows.map f) := by
  rw [replaceRow, replaceRow, List.map_map, List.map_map]
  refine List.map_congr_left fun r _ ↦ ?_
  by_cases hk : key r = key new
  · simp [hk, hf]
  · simp [hk, hf]

/-- **Counting across a replacement.** Replacing `old` by `new` moves a count by exactly the change
of the two rows, also when the counted property changes for that row. -/
theorem countP_replaceRow (p p' : ρ → Bool) {new old : ρ} {rows : List ρ}
    (hkeys : (rows.map key).Nodup) (hold : old ∈ rows) (hk : key old = key new)
    (hagree : ∀ r ∈ rows, key r ≠ key new → p' r = p r) :
    (replaceRow key new rows).countP p' + (if p old then 1 else 0)
      = rows.countP p + (if p' new then 1 else 0) := by
  induction rows with
  | nil => exact absurd hold (by simp)
  | cons row rows ih =>
    rw [List.map_cons, List.nodup_cons] at hkeys
    have hcons : replaceRow key new (row :: rows)
        = (if key row = key new then new else row) :: replaceRow key new rows := rfl
    rw [hcons]
    rcases List.mem_cons.1 hold with rfl | htail
    · have hne : ∀ r ∈ rows, key r ≠ key new := by
        intro r hr hrk
        refine hkeys.1 ?_
        rw [hk, ← hrk]
        exact List.mem_map_of_mem hr
      have hrest : rows.countP p' = rows.countP p :=
        List.countP_congr fun r hr ↦ by rw [hagree r (List.mem_cons_of_mem _ hr) (hne r hr)]
      rw [if_pos hk, replaceRow_eq_self hne, List.countP_cons, List.countP_cons, hrest]
      omega
    · have hne : key row ≠ key new := by
        intro hrow
        refine hkeys.1 ?_
        rw [hrow, ← hk]
        exact List.mem_map_of_mem htail
      have := ih hkeys.2 htail fun r hr ↦ hagree r (List.mem_cons_of_mem _ hr)
      rw [if_neg hne, List.countP_cons, List.countP_cons, hagree row (by simp) hne]
      omega

/-- A count only drops when the new row counts only if every row of its key did. -/
theorem countP_replaceRow_le {p : ρ → Bool} {new : ρ} {rows : List ρ}
    (h : ∀ r ∈ rows, key r = key new → p new = true → p r = true) :
    (replaceRow key new rows).countP p ≤ rows.countP p := by
  rw [replaceRow, List.countP_map]
  refine List.countP_mono_left fun row hrow hp ↦ ?_
  by_cases hk : key row = key new
  · simp only [Function.comp_apply, hk, if_true] at hp
    exact h row hrow hk hp
  · simpa [hk] using hp

end Replace

/-! ## Rewriting every selected row -/

section Update

/-- `UPDATE … SET … WHERE`: rewrite the rows that `selected` picks. -/
def updateWhere (selected : ρ → Prop) [DecidablePred selected] (f : ρ → ρ) (rows : List ρ) :
    List ρ :=
  rows.map fun row ↦ if selected row then f row else row

variable {selected : ρ → Prop} [DecidablePred selected] {f : ρ → ρ}

theorem mem_updateWhere {r : ρ} {rows : List ρ} :
    r ∈ updateWhere selected f rows ↔
      (∃ row ∈ rows, selected row ∧ r = f row) ∨ (r ∈ rows ∧ ¬ selected r) := by
  constructor
  · intro h
    obtain ⟨row, hrow, rfl⟩ := List.mem_map.1 h
    by_cases hs : selected row
    · exact .inl ⟨row, hrow, hs, if_pos hs⟩
    · rw [if_neg hs]
      exact .inr ⟨hrow, hs⟩
  · rintro (⟨row, hrow, hs, rfl⟩ | ⟨hr, hs⟩)
    · exact List.mem_map.2 ⟨row, hrow, if_pos hs⟩
    · exact List.mem_map.2 ⟨r, hr, if_neg hs⟩

theorem map_updateWhere {β : Type*} (col : ρ → β) (hf : ∀ row, col (f row) = col row)
    (rows : List ρ) : (updateWhere selected f rows).map col = rows.map col := by
  rw [updateWhere, List.map_map]
  refine List.map_congr_left fun row _ ↦ ?_
  by_cases hs : selected row
  · simp [hs, hf]
  · simp [hs]

theorem find?_updateWhere {p : ρ → Bool} (hf : ∀ row, p (f row) = p row) (rows : List ρ) :
    (updateWhere selected f rows).find? p
      = (rows.find? p).map fun row ↦ if selected row then f row else row := by
  rw [updateWhere, List.find?_map]
  congr 2
  funext row
  by_cases hs : selected row
  · simp [hs, hf]
  · simp [hs]

end Update

/-! ## The first row in an order -/

/-- `ORDER BY … LIMIT 1`: the row that comes first, ties going to the earlier row. -/
def firstBy (before : ρ → ρ → Bool) : List ρ → Option ρ
  | [] => none
  | row :: rows =>
    match firstBy before rows with
    | none => some row
    | some best => if before best row then some best else some row

theorem firstBy_mem {before : ρ → ρ → Bool} {rows : List ρ} {r : ρ}
    (h : firstBy before rows = some r) : r ∈ rows := by
  induction rows generalizing r with
  | nil => exact absurd h (by simp [firstBy])
  | cons row rows ih =>
    rw [firstBy] at h
    cases hrest : firstBy before rows with
    | none =>
      rw [hrest] at h
      simp only [Option.some.injEq] at h
      simp [h]
    | some best =>
      rw [hrest] at h
      have hbest := ih hrest
      by_cases hb : before best row
      · simp only [hb, if_true, Option.some.injEq] at h
        subst h
        exact List.mem_cons_of_mem _ hbest
      · simp only [hb, Bool.false_eq_true, if_false, Option.some.injEq] at h
        simp [h]

theorem firstBy_eq_none {before : ρ → ρ → Bool} {rows : List ρ} :
    firstBy before rows = none ↔ rows = [] := by
  cases rows with
  | nil => simp [firstBy]
  | cons row rows =>
    rw [firstBy]
    cases firstBy before rows with
    | none => simp
    | some best => by_cases hb : before best row <;> simp [hb]

end Relational
