import Mathlib.Algebra.Order.Group.Defs
import Mathlib.Algebra.Order.Sub.Basic
import Mathlib.Data.List.Basic

/-!
# Sliding windows

Requests are admitted one after another, each at the time at which it started; the times may come in
any order. No window of a given width holds more of them than the limit when every request is
admitted only where the windows around it have room. A test that looks back one width, and counts
everything since, sees every window around its own time.
-/

namespace Relational

section Windows

variable {τ : Type*} [AddCommGroup τ] [LinearOrder τ]

/-- The time lies in the closed window that begins at `x`. -/
def inWindow (width x t : τ) : Bool :=
  decide (x ≤ t ∧ t ≤ x + width)

/-- No window holds more of the times than the limit. -/
def Limited (limit : ℕ) (width : τ) (times : List τ) : Prop :=
  ∀ x, times.countP (inWindow width x) ≤ limit

variable {limit : ℕ} {width : τ} {times batch : List τ}

theorem Limited.nil : Limited limit width ([] : List τ) := fun _ ↦ by simp

/-- **A batch is admitted** where every window around its time has room for it. -/
theorem Limited.admit (h : Limited limit width times) (now : τ) (hbatch : ∀ t ∈ batch, t = now)
    (hroom : ∀ x, inWindow width x now = true →
      times.countP (inWindow width x) + batch.length ≤ limit) :
    Limited limit width (times ++ batch) := by
  intro x
  rw [List.countP_append]
  by_cases hx : inWindow width x now = true
  · have hcount := hroom x hx
    have hle : batch.countP (inWindow width x) ≤ batch.length := List.countP_le_length
    omega
  · -- a window that the batch is not in
    have hnone : batch.countP (inWindow width x) = 0 := by
      rw [List.countP_eq_zero]
      intro t ht
      rwa [hbatch t ht]
    rw [hnone, Nat.add_zero]
    exact h x

/-- The admission test that looks back one width. -/
theorem Limited.admit_of_count [IsOrderedAddMonoid τ] (h : Limited limit width times) (now : τ)
    (hbatch : ∀ t ∈ batch, t = now)
    (hroom : batch ≠ [] →
      times.countP (fun t ↦ decide (now - width ≤ t)) + batch.length ≤ limit) :
    Limited limit width (times ++ batch) := by
  by_cases hempty : batch = []
  · rw [hempty, List.append_nil]
    exact h
  · refine h.admit now hbatch fun x hx ↦ ?_
    have hnow : now ≤ x + width := (of_decide_eq_true hx).2
    have hseen : times.countP (inWindow width x)
        ≤ times.countP fun t ↦ decide (now - width ≤ t) := by
      refine List.countP_mono_left fun t _ ht ↦ decide_eq_true ?_
      exact (sub_le_iff_le_add.2 hnow).trans (of_decide_eq_true ht).1
    have hcount := hroom hempty
    omega

end Windows

end Relational
