import Mathlib.Data.Set.Insert
import Mathlib.Data.List.Pairwise
import Mathlib.Tactic.Common

/-!
# Creating a remote object once

A caller that wants an object from a remote service looks for it first and creates it only when it
finds none, under a key that the service remembers: a second creation under the key answers with the
first object. Looking and creating are two calls, so other callers may create in between, and
callers may stop after either.

Neither half is enough alone. A caller may have looked before another one created, and then only the
key holds it back; the service may have forgotten the key, and then only the look does. The object
is unique as long as no key is forgotten while a caller that has looked may still create under it.
-/

namespace Relational

variable {κ β : Type*}

/-- The objects of the service, the keys it remembers, and the keys under which a caller that found
nothing may still create. -/
structure Remote (κ β : Type*) where
  objects : List β
  remembered : Set κ
  looking : Set κ

variable {serves : κ → β → Prop}

/-- One event at the service; `serves k b` says that a caller with the key would find the object. -/
inductive Remote.Step (serves : κ → β → Prop) (r : Remote κ β) : Remote κ β → Prop
  /-- A caller looks and finds nothing. -/
  | look {k : κ} {looking : Set κ} (hnone : ∀ b ∈ r.objects, ¬ serves k b)
      (hlooking : ∀ k' ∈ looking, k' ∈ r.looking ∨ k' = k) :
    Remote.Step serves r { r with looking := looking }
  /-- Callers stop, or are answered with an object that exists. -/
  | leave {looking : Set κ} (hlooking : looking ⊆ r.looking) :
    Remote.Step serves r { r with looking := looking }
  /-- The service executes a creation under a key that it does not remember. -/
  | create {k : κ} {b : β} {looking : Set κ} (hlooked : k ∈ r.looking) (hnew : k ∉ r.remembered)
      (hserves : ∀ k', serves k' b → k' = k) (hlooking : looking ⊆ r.looking) :
    Remote.Step serves r ⟨b :: r.objects, insert k r.remembered, looking⟩
  /-- Objects change; none serves a key that it did not serve. -/
  | evolve {f : β → β} (hserves : ∀ b ∈ r.objects, ∀ k, serves k (f b) → serves k b) :
    Remote.Step serves r { r with objects := r.objects.map f }
  /-- An object that serves no key appears. -/
  | other {b : β} (hserves : ∀ k, ¬ serves k b) :
    Remote.Step serves r { r with objects := b :: r.objects }
  /-- Keys under which nobody may create any more are forgotten. -/
  | forget {remembered : Set κ} (hkept : ∀ k ∈ r.looking, k ∈ r.remembered → k ∈ remembered) :
    Remote.Step serves r { r with remembered := remembered }

/-- No key has two objects, and whoever may still create beside an object is held back by its
key. -/
structure Remote.Unique (serves : κ → β → Prop) (r : Remote κ β) : Prop where
  pairwise : r.objects.Pairwise fun b b' ↦ ∀ k, serves k b → ¬ serves k b'
  known : ∀ k ∈ r.looking, (∃ b ∈ r.objects, serves k b) → k ∈ r.remembered

theorem Remote.Unique.empty {remembered looking : Set κ} :
    Remote.Unique serves ⟨[], remembered, looking⟩ :=
  ⟨.nil, fun _ _ hsome ↦ by simp at hsome⟩

/-- **Every event keeps the objects unique.** -/
theorem Remote.Step.unique {r r' : Remote κ β} (hstep : Remote.Step serves r r')
    (h : r.Unique serves) : r'.Unique serves := by
  cases hstep with
  | look hnone hlooking =>
    refine ⟨h.pairwise, fun k hk hsome ↦ ?_⟩
    obtain hk | rfl := hlooking k hk
    · exact h.known k hk hsome
    · obtain ⟨b, hb, hserves⟩ := hsome
      exact absurd hserves (hnone b hb)
  | leave hlooking => exact ⟨h.pairwise, fun k hk hsome ↦ h.known k (hlooking hk) hsome⟩
  | @create k b _ hlooked hnew hserves hlooking =>
    -- an object of the key would have the key remembered
    have hnone : ∀ b' ∈ r.objects, ¬ serves k b' := fun b' hb' hserves' ↦
      hnew (h.known k hlooked ⟨b', hb', hserves'⟩)
    refine ⟨List.pairwise_cons.2 ⟨fun b' hb' k' hk' ↦ ?_, h.pairwise⟩, fun k' hk' hsome ↦ ?_⟩
    · rw [hserves k' hk']
      exact hnone b' hb'
    · obtain ⟨b', hb', hserves'⟩ := hsome
      obtain rfl | hb' := List.mem_cons.1 hb'
      · exact .inl (hserves k' hserves')
      · exact .inr (h.known k' (hlooking hk') ⟨b', hb', hserves'⟩)
  | evolve hserves =>
    refine ⟨List.pairwise_map.2 (h.pairwise.imp_of_mem fun hb hb' hne k hk hk' ↦ ?_),
      fun k hk hsome ↦ ?_⟩
    · exact hne k (hserves _ hb k hk) (hserves _ hb' k hk')
    · obtain ⟨_, hmapped, hk'⟩ := hsome
      obtain ⟨b, hb, rfl⟩ := List.mem_map.1 hmapped
      exact h.known k hk ⟨b, hb, hserves b hb k hk'⟩
  | other hserves =>
    refine ⟨List.pairwise_cons.2 ⟨fun _ _ k hk ↦ absurd hk (hserves k), h.pairwise⟩,
      fun k hk hsome ↦ ?_⟩
    obtain ⟨b, hb, hk'⟩ := hsome
    obtain rfl | hb := List.mem_cons.1 hb
    · exact absurd hk' (hserves k)
    · exact h.known k hk ⟨b, hb, hk'⟩
  | forget hkept => exact ⟨h.pairwise, fun k hk hsome ↦ hkept k hk (h.known k hk hsome)⟩

theorem Remote.Unique.countP_le_one {r : Remote κ β} (h : r.Unique serves) (k : κ)
    {p : β → Bool} (hp : ∀ b, p b = true → serves k b) : r.objects.countP p ≤ 1 := by
  obtain ⟨objects, remembered, looking⟩ := r
  have hpairwise : objects.Pairwise fun b b' ↦ ∀ k, serves k b → ¬ serves k b' := h.pairwise
  clear h
  induction hpairwise with
  | nil => exact Nat.zero_le 1
  | @cons b rest hb _ ih =>
    rw [List.countP_cons]
    by_cases hserves : p b = true
    · have hnone : rest.countP p = 0 :=
        List.countP_eq_zero.2 fun b' hb' hserves' ↦ hb b' hb' k (hp b hserves) (hp b' hserves')
      rw [hnone, if_pos hserves]
    · rw [if_neg hserves]
      exact ih

end Relational
