import Mathlib.Data.List.Sort
import Mathlib.Data.Prod.Lex
import Ocg.Relational.Table

/-!
# Queues

A table read `order by` a rank that no two of its rows share. The rows in that order are determined
by the table, so taking the first row over and over takes the rows one after the other.
-/

namespace Relational

variable {ρ α κ : Type} [LinearOrder α] {rank : ρ → α} {rows rows' : List ρ}

/-- The rows in the order of a rank. -/
def inOrder (rank : ρ → α) (rows : List ρ) : List ρ :=
  rows.insertionSort fun r r' ↦ rank r ≤ rank r'

theorem inOrder_perm (rank : ρ → α) (rows : List ρ) : (inOrder rank rows).Perm rows :=
  List.perm_insertionSort _ rows

theorem mem_inOrder {r : ρ} : r ∈ inOrder rank rows ↔ r ∈ rows :=
  (inOrder_perm rank rows).mem_iff

theorem pairwise_inOrder (rank : ρ → α) (rows : List ρ) :
    (inOrder rank rows).Pairwise fun r r' ↦ rank r ≤ rank r' := by
  have : Std.Total fun r r' : ρ ↦ rank r ≤ rank r' := ⟨fun r r' ↦ le_total (rank r) (rank r')⟩
  have : IsTrans ρ fun r r' ↦ rank r ≤ rank r' := ⟨fun _ _ _ ↦ le_trans⟩
  exact List.pairwise_insertionSort _ rows

theorem pairwise_lt_inOrder (hranks : (rows.map rank).Nodup) :
    (inOrder rank rows).Pairwise fun r r' ↦ rank r < rank r' := by
  have hnodup : ((inOrder rank rows).map rank).Nodup :=
    ((inOrder_perm rank rows).map rank).nodup_iff.2 hranks
  refine (pairwise_inOrder rank rows).imp₂ (fun r r' hle hne ↦ lt_of_le_of_ne hle hne) ?_
  exact List.pairwise_map.1 hnodup

/-- There is one way to put rows of different ranks in order. -/
theorem inOrder_eq {q : List ρ} (hperm : q.Perm rows)
    (hsorted : q.Pairwise fun r r' ↦ rank r < rank r') : inOrder rank rows = q := by
  have hranks : (rows.map rank).Nodup := by
    refine (hperm.map rank).nodup_iff.1 (List.pairwise_map.2 ?_)
    exact hsorted.imp fun hlt ↦ hlt.ne
  refine ((inOrder_perm rank rows).trans hperm.symm).eq_of_pairwise
    (fun r r' _ _ hlt hlt' ↦ absurd hlt' hlt.asymm) (pairwise_lt_inOrder hranks) hsorted

theorem inOrder_filter (hranks : (rows.map rank).Nodup) (keep : ρ → Bool) :
    inOrder rank (rows.filter keep) = (inOrder rank rows).filter keep :=
  inOrder_eq ((inOrder_perm rank rows).filter keep)
    ((pairwise_lt_inOrder hranks).filter keep)

theorem firstBy_le {before : ρ → ρ → Bool}
    (hbefore : ∀ r r', before r r' = true ↔ rank r < rank r') {r : ρ}
    (h : firstBy before rows = some r) : ∀ r' ∈ rows, rank r ≤ rank r' := by
  induction rows generalizing r with
  | nil => simp
  | cons row rows ih =>
    intro r' hr'
    rw [firstBy] at h
    cases hrest : firstBy before rows with
    | none =>
      rw [hrest] at h
      obtain rfl := firstBy_eq_none.1 hrest
      obtain rfl := Option.some.inj h
      rw [List.mem_singleton.1 hr']
    | some best =>
      have hbest := ih hrest
      simp only [hrest] at h
      split at h
      · next hb =>
        obtain rfl := Option.some.inj h
        rcases List.mem_cons.1 hr' with rfl | hr'
        · exact ((hbefore _ _).1 hb).le
        · exact hbest r' hr'
      · next hb =>
        obtain rfl := Option.some.inj h
        rcases List.mem_cons.1 hr' with rfl | hr'
        · exact le_rfl
        · exact (not_lt.1 fun hlt ↦ hb ((hbefore _ _).2 hlt)).trans (hbest r' hr')

theorem firstBy_eq_head?_inOrder {before : ρ → ρ → Bool}
    (hbefore : ∀ r r', before r r' = true ↔ rank r < rank r') (hranks : (rows.map rank).Nodup) :
    firstBy before rows = (inOrder rank rows).head? := by
  have hsorted := pairwise_lt_inOrder hranks
  have hperm := inOrder_perm rank rows
  cases hq : inOrder rank rows with
  | nil =>
    rw [hq] at hperm
    obtain rfl := hperm.nil_eq
    rfl
  | cons head rest =>
    rw [hq, List.pairwise_cons] at hsorted
    have hhead : head ∈ rows := mem_inOrder.1 (by rw [hq]; simp)
    have hne : rows ≠ [] := List.ne_nil_of_mem hhead
    obtain ⟨r, hr⟩ := Option.ne_none_iff_exists'.1 (firstBy_eq_none.not.2 hne)
    have hmem : r ∈ head :: rest := hq ▸ mem_inOrder.2 (firstBy_mem hr)
    rw [hr, List.head?_cons]
    rcases List.mem_cons.1 hmem with rfl | hrest
    · rfl
    · exact absurd (hsorted.1 r hrest) (not_lt.2 (firstBy_le hbefore hr head hhead))

theorem inOrder_filter_ne [DecidableEq κ] {key : ρ → κ} (hkeys : (rows.map key).Nodup)
    (hranks : (rows.map rank).Nodup) {head : ρ} {rest : List ρ}
    (hq : inOrder rank rows = head :: rest) :
    inOrder rank (rows.filter fun r ↦ key r ≠ key head) = rest := by
  rw [inOrder_filter hranks, hq]
  have hnodup : ((head :: rest).map key).Nodup := by
    rw [← hq]
    exact ((inOrder_perm rank rows).map key).nodup_iff.2 hkeys
  rw [List.map_cons, List.nodup_cons] at hnodup
  rw [List.filter_cons, if_neg (by simp)]
  refine List.filter_eq_self.2 fun r hr ↦ decide_eq_true fun heq ↦ hnodup.1 ?_
  rw [← heq]
  exact List.mem_map_of_mem hr

end Relational
