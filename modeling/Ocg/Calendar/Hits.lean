import Mathlib.Data.List.Basic
import Mathlib.Data.List.Nodup
import Mathlib.Data.Finset.Card
import Mathlib.Tactic.Common

/-!
# Collecting the first hits

Going through `0, 1, 2, …` and collecting what a partial function gives until there are `n` values:
with as many values within reach, the walk ends, and what it collects is an initial segment of all
values, in their order.
-/

namespace Calendar

variable {α : Type*} (f : ℕ → Option α)

/-- The values at the first places. -/
def hits (k : ℕ) : List α := (List.range k).filterMap f

/-- The walk from place `k` on, with the values so far. -/
def collect (n : ℕ) : ℕ → ℕ → List α → Option (List α)
  | fuel, k, acc =>
    if n ≤ acc.length then some acc
    else match fuel with
      | 0 => none
      | fuel + 1 => collect n fuel (k + 1) (acc ++ (f k).toList)

variable {f}

theorem hits_succ (k : ℕ) : hits f (k + 1) = hits f k ++ (f k).toList := by
  rw [hits, hits, List.range_succ, List.filterMap_append]
  cases h : f k <;> simp [h]

theorem mem_hits {k : ℕ} {a : α} : a ∈ hits f k ↔ ∃ i < k, f i = some a := by
  simp [hits]

theorem hits_initial {k k' : ℕ} (h : k ≤ k') : hits f k <+: hits f k' := by
  induction h with
  | refl => exact List.prefix_rfl
  | step _ ih =>
    rw [hits_succ]
    exact ih.trans (List.prefix_append _ _)

theorem pairwise_hits {R : α → α → Prop}
    (h : ∀ i j a b, i < j → f i = some a → f j = some b → R a b)
    (k : ℕ) : (hits f k).Pairwise R := by
  induction k with
  | zero => exact List.Pairwise.nil
  | succ k ih =>
    rw [hits_succ, List.pairwise_append]
    refine ⟨ih, ?_, ?_⟩
    · cases f k <;> simp
    · intro a ha b hb
      obtain ⟨i, hi, hfi⟩ := mem_hits.1 ha
      exact h i k a b hi hfi (by simpa using hb)

/-- **The walk ends** once enough places with values are within reach. -/
theorem collect_eq {n fuel k : ℕ} (hk : (hits f k).length ≤ n)
    (hfuel : n ≤ (hits f (k + fuel)).length) :
    collect f n fuel k (hits f k) = some ((hits f (k + fuel)).take n) := by
  induction fuel generalizing k with
  | zero =>
    have hlength : (hits f k).length = n := le_antisymm hk hfuel
    rw [collect, if_pos hlength.ge, Nat.add_zero, ← hlength, List.take_length]
  | succ fuel ih =>
    rw [collect]
    split_ifs with hdone
    · -- what is there already is the beginning of all
      have hlength : (hits f k).length = n := le_antisymm hk hdone
      rw [← hlength, ← List.prefix_iff_eq_take.1 (hits_initial (Nat.le_add_right k (fuel + 1)))]
    · rw [← hits_succ, ih, Nat.add_right_comm, Nat.add_assoc]
      · rw [hits_succ, List.length_append]
        have hone : (f k).toList.length ≤ 1 := by
          cases f k <;> simp
        omega
      · rw [Nat.add_right_comm, Nat.add_assoc]
        exact hfuel

/-- Distinct values within reach are no more than the hits. -/
theorem length_le_length_hits {values : List α} (hnodup : values.Nodup) {k : ℕ}
    (h : ∀ a ∈ values, a ∈ hits f k) : values.length ≤ (hits f k).length := by
  exact (List.subperm_of_subset hnodup h).length_le

end Calendar
