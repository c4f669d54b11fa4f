import Mathlib.Data.Nat.ModEq
import Mathlib.Data.List.Range
import Mathlib.Logic.Relation
import Ocg.Relational.Table

/-!
# Pools that hand out residues

A pool of capacity `n` hands out the residues modulo `n` along an arithmetic progression: its `k`-th
number is `(offset + k * stride) % n`. When the stride is coprime to `n`, the first `n` numbers are
all different, so the number of elements handed out so far is the only state a pool needs.

Several pools may belong to one owner. `AllocStep` hands out the next number of a pool with room, or
opens a pool for an owner whose pools are all full; in an allocation that such steps reach, no pool
hands out a number twice.
-/

namespace Relational

variable {ι γ : Type*}

/-- A pool of numbers: whose it is, how many it handed out, and its progression. -/
structure Pool (ι γ : Type*) where
  id : ι
  owner : γ
  taken : ℕ
  offset : ℕ
  stride : ℕ

/-- The number that a pool hands out at a position. -/
def Pool.slot (n : ℕ) (p : Pool ι γ) (position : ℕ) : ℕ := (p.offset + position * p.stride) % n

/-- The pool after one more number. -/
def Pool.advance (p : Pool ι γ) : Pool ι γ := { p with taken := p.taken + 1 }

theorem Pool.slot_lt {n : ℕ} (hn : 0 < n) (p : Pool ι γ) (position : ℕ) : p.slot n position < n :=
  Nat.mod_lt _ hn

/-- **A stride coprime to the capacity permutes the residues.** -/
theorem Pool.slot_injective {n : ℕ} {p : Pool ι γ} (hstride : n.Coprime p.stride) {k l : ℕ}
    (hk : k < n) (hl : l < n) (h : p.slot n k = p.slot n l) : k = l := by
  have hsum : p.offset + k * p.stride ≡ p.offset + l * p.stride [MOD n] := h
  have hproduct : k * p.stride ≡ l * p.stride [MOD n] := hsum.add_left_cancel' _
  have hmod : k ≡ l [MOD n] := hproduct.cancel_right_of_coprime hstride
  rwa [Nat.ModEq, Nat.mod_eq_of_lt hk, Nat.mod_eq_of_lt hl] at hmod

/-- The pools of a system, and the numbers handed out so far, each with its pool. -/
structure Allocation (ι γ : Type*) where
  pools : List (Pool ι γ)
  issued : List (ι × ℕ)

/-- The numbers that a pool handed out, in their order. -/
def Allocation.numbersOf [DecidableEq ι] (a : Allocation ι γ) (id : ι) : List ℕ :=
  (a.issued.filter fun number ↦ number.1 = id).map Prod.snd

section Steps

variable [DecidableEq ι] (n : ℕ)

/-- One step of an allocator of capacity `n`. -/
inductive AllocStep : Allocation ι γ → Allocation ι γ → Prop
  /-- A pool with room hands out its next number. -/
  | issue {a : Allocation ι γ} {p : Pool ι γ} (hp : p ∈ a.pools) (hroom : p.taken < n) :
    AllocStep a
      ⟨replaceRow Pool.id p.advance a.pools, a.issued ++ [(p.id, p.slot n p.taken)]⟩
  /-- An owner whose pools are all full gets another one. -/
  | create {a : Allocation ι γ} {p : Pool ι γ} (hnew : ∀ q ∈ a.pools, q.id ≠ p.id)
    (hempty : p.taken = 0) (hstride : n.Coprime p.stride)
    (hfull : ∀ q ∈ a.pools, q.owner = p.owner → q.taken = n) :
    AllocStep a { a with pools := a.pools ++ [p] }

/-- What holds of an allocation however it was reached. -/
structure Allocation.Sound (a : Allocation ι γ) : Prop where
  keys : (a.pools.map Pool.id).Nodup
  taken : ∀ p ∈ a.pools, p.taken ≤ n
  stride : ∀ p ∈ a.pools, n.Coprime p.stride
  /-- A pool handed out exactly the numbers of its first positions. -/
  issued : ∀ p ∈ a.pools, a.numbersOf p.id = (List.range p.taken).map (p.slot n)
  pooled : ∀ number ∈ a.issued, ∃ p ∈ a.pools, p.id = number.1
  /-- One pool of an owner has room at most. -/
  room : ∀ p ∈ a.pools, ∀ q ∈ a.pools, p.owner = q.owner → p.taken < n → q.taken < n → p = q

variable {n} {a b : Allocation ι γ}

theorem Allocation.numbersOf_append (a : Allocation ι γ) (pools : List (Pool ι γ)) (id : ι)
    (number : ι × ℕ) : (⟨pools, a.issued ++ [number]⟩ : Allocation ι γ).numbersOf id
      = a.numbersOf id ++ if number.1 = id then [number.2] else [] := by
  unfold Allocation.numbersOf
  rw [List.filter_append, List.map_append]
  congr 1
  by_cases h : number.1 = id <;> simp [h]

theorem AllocStep.sound (h : AllocStep n a b) (ha : a.Sound n) : b.Sound n := by
  cases h with
  | @issue p hp hroom =>
    have hid : p.id = p.advance.id := rfl
    -- the pool of the new number is the only one whose numbers change
    have hrow : ∀ {q}, q ∈ replaceRow Pool.id p.advance a.pools ↔
        q = p.advance ∨ (q ∈ a.pools ∧ q.id ≠ p.id) := mem_replaceRow_iff hp hid
    refine ⟨by rw [map_key_replaceRow]; exact ha.keys, ?_, ?_, ?_, ?_, ?_⟩
    · intro q hq
      rcases hrow.1 hq with rfl | ⟨hq, -⟩
      · exact hroom
      · exact ha.taken q hq
    · intro q hq
      rcases hrow.1 hq with rfl | ⟨hq, -⟩
      · exact ha.stride p hp
      · exact ha.stride q hq
    · intro q hq
      rw [a.numbersOf_append]
      rcases hrow.1 hq with rfl | ⟨hq, hne⟩
      · rw [if_pos hid, ← hid, ha.issued p hp]
        change _ = (List.range (p.taken + 1)).map (p.slot n)
        rw [List.range_succ, List.map_append, List.map_singleton]
      · rw [if_neg (Ne.symm hne), List.append_nil, ha.issued q hq]
    · intro number hnumber
      rcases List.mem_append.1 hnumber with hold | hnew
      · obtain ⟨q, hq, hq_id⟩ := ha.pooled number hold
        by_cases hsame : q.id = p.id
        · exact ⟨p.advance, new_mem_replaceRow hp hid, hsame ▸ hq_id⟩
        · exact ⟨q, mem_replaceRow_of_ne hq hsame, hq_id⟩
      · obtain rfl := List.mem_singleton.1 hnew
        exact ⟨p.advance, new_mem_replaceRow hp hid, rfl⟩
    · intro q hq r hr howner hq_room hr_room
      rcases hrow.1 hq with rfl | ⟨hq, hq_ne⟩
      · rcases hrow.1 hr with rfl | ⟨hr, hr_ne⟩
        · rfl
        · exact absurd (congrArg Pool.id (ha.room p hp r hr howner hroom hr_room)) hr_ne.symm
      · rcases hrow.1 hr with rfl | ⟨hr, hr_ne⟩
        · exact absurd (congrArg Pool.id (ha.room q hq p hp howner hq_room hroom)) hq_ne
        · exact ha.room q hq r hr howner hq_room hr_room
  | @create p hnew hempty hstride hfull =>
    refine ⟨nodup_keys_append ha.keys hnew, ?_, ?_, ?_, ?_, ?_⟩
    · intro q hq
      rcases List.mem_append.1 hq with hq | hq
      · exact ha.taken q hq
      · obtain rfl := List.mem_singleton.1 hq
        omega
    · intro q hq
      rcases List.mem_append.1 hq with hq | hq
      · exact ha.stride q hq
      · obtain rfl := List.mem_singleton.1 hq
        exact hstride
    · intro q hq
      rcases List.mem_append.1 hq with hq | hq
      · exact ha.issued q hq
      · obtain rfl := List.mem_singleton.1 hq
        -- every number issued so far belongs to an older pool
        have hnone : a.issued.filter (fun number ↦ number.1 = q.id) = [] := by
          refine List.filter_eq_nil_iff.2 fun number hnumber ↦ ?_
          obtain ⟨r, hr, hr_id⟩ := ha.pooled number hnumber
          simpa [← hr_id] using hnew r hr
        simp [Allocation.numbersOf, hnone, hempty]
    · intro number hnumber
      obtain ⟨q, hq, hq_id⟩ := ha.pooled number hnumber
      exact ⟨q, List.mem_append_left _ hq, hq_id⟩
    · intro q hq r hr howner hq_room hr_room
      rcases List.mem_append.1 hq with hq_old | hq_new <;>
        rcases List.mem_append.1 hr with hr_old | hr_new
      · exact ha.room q hq_old r hr_old howner hq_room hr_room
      · obtain rfl := List.mem_singleton.1 hr_new
        have := hfull q hq_old howner
        omega
      · obtain rfl := List.mem_singleton.1 hq_new
        have := hfull r hr_old howner.symm
        omega
      · rw [List.mem_singleton.1 hq_new, List.mem_singleton.1 hr_new]

/-! ## What a sound allocation gives -/

theorem Allocation.Sound.count (ha : a.Sound n) {p : Pool ι γ} (hp : p ∈ a.pools) :
    (a.issued.filter fun number ↦ number.1 = p.id).length = p.taken := by
  have := congrArg List.length (ha.issued p hp)
  simpa [Allocation.numbersOf] using this

theorem Allocation.Sound.issued_lt (ha : a.Sound n) {number : ι × ℕ} (h : number ∈ a.issued) :
    number.2 < n := by
  obtain ⟨p, hp, hid⟩ := ha.pooled number h
  have hmem : number.2 ∈ a.numbersOf p.id :=
    List.mem_map.2 ⟨number, List.mem_filter.2 ⟨h, by simp [hid]⟩, rfl⟩
  rw [ha.issued p hp] at hmem
  obtain ⟨k, hk, hslot⟩ := List.mem_map.1 hmem
  have hn : 0 < n := (Nat.zero_le k).trans_lt ((List.mem_range.1 hk).trans_le (ha.taken p hp))
  exact hslot ▸ p.slot_lt hn k

/-- The number that a pool with room hands out next was not handed out before. -/
theorem Allocation.Sound.slot_fresh (ha : a.Sound n) {p : Pool ι γ} (hp : p ∈ a.pools)
    (hroom : p.taken < n) : (p.id, p.slot n p.taken) ∉ a.issued := by
  intro hissued
  have hmem : p.slot n p.taken ∈ a.numbersOf p.id :=
    List.mem_map.2 ⟨_, List.mem_filter.2 ⟨hissued, by simp⟩, rfl⟩
  rw [ha.issued p hp] at hmem
  obtain ⟨k, hk, hslot⟩ := List.mem_map.1 hmem
  have hk : k < p.taken := List.mem_range.1 hk
  have := p.slot_injective (ha.stride p hp) (hk.trans hroom) hroom hslot
  omega

theorem Allocation.Sound.numbersOf_nodup (ha : a.Sound n) (id : ι) : (a.numbersOf id).Nodup := by
  by_cases hid : ∃ p ∈ a.pools, p.id = id
  · obtain ⟨p, hp, rfl⟩ := hid
    rw [ha.issued p hp]
    refine List.Nodup.map_on ?_ List.nodup_range
    intro k hk l hl hslot
    have htaken := ha.taken p hp
    exact p.slot_injective (ha.stride p hp) ((List.mem_range.1 hk).trans_le htaken)
      ((List.mem_range.1 hl).trans_le htaken) hslot
  · have hnone : a.issued.filter (fun number ↦ number.1 = id) = [] := by
      refine List.filter_eq_nil_iff.2 fun number hnumber hnumber_id ↦ hid ?_
      obtain ⟨p, hp, hp_id⟩ := ha.pooled number hnumber
      exact ⟨p, hp, hp_id.trans (of_decide_eq_true hnumber_id)⟩
    simp [Allocation.numbersOf, hnone]

/-- **No number is handed out twice.** -/
theorem Allocation.Sound.issued_nodup (ha : a.Sound n) : a.issued.Nodup := by
  rw [List.nodup_iff_count_le_one]
  intro number
  have hcount : a.issued.count number ≤ (a.numbersOf number.1).count number.2 := by
    have hfilter : (a.issued.filter fun row ↦ row.1 = number.1).count number
        = a.issued.count number := List.count_filter (by simp)
    rw [← hfilter]
    exact List.count_le_count_map
  exact hcount.trans (List.nodup_iff_count_le_one.1 (ha.numbersOf_nodup number.1) number.2)

end Steps

end Relational
