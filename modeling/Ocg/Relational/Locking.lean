import Mathlib.Data.List.Basic
import Mathlib.Data.Fintype.Basic
import Mathlib.Tactic.Common

/-!
# Locks of concurrent transactions

Every transaction holds a list of locks until it ends, and a lock is granted when no other
transaction holds one in conflict with it. Which locks conflict is a parameter: one row and another,
or two modes of one row. `Compatible.update` is the rule for a transaction that takes locks or drops
them.
-/

namespace Relational

variable {τ ℓ : Type*} {conflicts : ℓ → ℓ → Prop}

/-- No other transaction holds a lock in conflict with the requested one. -/
def Grantable (conflicts : ℓ → ℓ → Prop) (held : τ → List ℓ) (t : τ) (l : ℓ) : Prop :=
  ∀ t', t' ≠ t → ∀ l' ∈ held t', ¬ conflicts l l'

instance [Fintype τ] [DecidableEq τ] [DecidableRel conflicts] (held : τ → List ℓ) (t : τ) (l : ℓ) :
    Decidable (Grantable conflicts held t l) :=
  inferInstanceAs (Decidable (∀ t', t' ≠ t → ∀ l' ∈ held t', ¬ conflicts l l'))

/-- No two transactions hold locks in conflict. -/
def Compatible (conflicts : ℓ → ℓ → Prop) (held : τ → List ℓ) : Prop :=
  ∀ t t', t ≠ t' → ∀ l ∈ held t, ∀ l' ∈ held t', ¬ conflicts l l'

/-- **Granting and releasing.** A transaction may add granted locks to its own, and drop any. -/
theorem Compatible.update {held held' : τ → List ℓ} {t : τ}
    (hsymm : ∀ l l', conflicts l l' → conflicts l' l) (h : Compatible conflicts held)
    (hother : ∀ t', t' ≠ t → held' t' = held t')
    (hnew : ∀ l ∈ held' t, l ∈ held t ∨ Grantable conflicts held t l) :
    Compatible conflicts held' := by
  have hfree (t' : τ) (ht' : t' ≠ t) (l : ℓ) (hl : l ∈ held' t) (l' : ℓ) (hl' : l' ∈ held' t') :
      ¬ conflicts l l' := by
    rw [hother t' ht'] at hl'
    obtain hl | hgrant := hnew l hl
    · exact h t t' ht'.symm l hl l' hl'
    · exact hgrant t' ht' l' hl'
  intro t₁ t₂ hne l hl l' hl' hconflict
  by_cases ht₁ : t₁ = t
  · subst ht₁
    exact hfree t₂ hne.symm l hl l' hl' hconflict
  · by_cases ht₂ : t₂ = t
    · subst ht₂
      exact hfree t₁ ht₁ l' hl' l hl (hsymm _ _ hconflict)
    · rw [hother t₁ ht₁] at hl
      rw [hother t₂ ht₂] at hl'
      exact h t₁ t₂ hne l hl l' hl' hconflict

end Relational
