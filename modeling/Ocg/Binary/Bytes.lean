import Mathlib.Algebra.Order.Ring.Nat
import Mathlib.Data.List.Induction
import Mathlib.Tactic.Ring

/-!
# Byte strings

Slices of a byte string by offsets, and numbers as big-endian bytes of a fixed width. A slice that
exists splits the string around it, and a string that is split gives the middle part as a slice; the
two directions are what encoders and decoders of framed formats need.
-/

namespace Binary

/-! ## Slices -/

section Slice

variable {α : Type*}

/-- The elements from one offset to another, if both are in range. -/
def slice (bytes : List α) (start stop : ℕ) : Option (List α) :=
  if start ≤ stop ∧ stop ≤ bytes.length then some ((bytes.drop start).take (stop - start)) else none

theorem slice_append (front part back : List α) :
    slice (front ++ part ++ back) front.length (front.length + part.length) = some part := by
  rw [slice, if_pos]
  · rw [List.append_assoc, List.drop_left, Nat.add_sub_cancel_left, List.take_left]
  · simp only [List.length_append]
    omega

theorem slice_eq_some {bytes part : List α} {start stop : ℕ}
    (h : slice bytes start stop = some part) :
    stop = start + part.length ∧ stop ≤ bytes.length
      ∧ bytes.drop start = part ++ bytes.drop stop := by
  rw [slice] at h
  split_ifs at h with hrange
  obtain rfl := Option.some.inj h
  obtain ⟨hle, hstop⟩ := hrange
  have hlength : ((bytes.drop start).take (stop - start)).length = stop - start := by
    rw [List.length_take, List.length_drop]
    omega
  refine ⟨by omega, hstop, ?_⟩
  have hdrop : (bytes.drop start).drop (stop - start) = bytes.drop stop := by
    rw [List.drop_drop]
    congr 1
    omega
  rw [← hdrop, List.take_append_drop]

theorem take_eq_of_slice {bytes part part' : List α} {start stop stop' n : ℕ}
    (h : slice bytes start stop = some part) (h' : slice bytes start stop' = some part')
    (hn : n ≤ part.length) (hn' : n ≤ part'.length) : part.take n = part'.take n := by
  have hlength := (slice_eq_some h).1
  have hlength' := (slice_eq_some h').1
  rw [slice] at h h'
  split_ifs at h h'
  obtain rfl := Option.some.inj h
  obtain rfl := Option.some.inj h'
  rw [List.take_take, List.take_take, min_eq_left, min_eq_left]
  · omega
  · omega

end Slice

/-! ## Big-endian numbers -/

/-- The low bytes of a number, the most significant first. -/
def toBigEndian : ℕ → ℕ → List UInt8
  | 0, _ => []
  | width + 1, n => toBigEndian width (n / 256) ++ [UInt8.ofNat n]

/-- The number with the given bytes. -/
def ofBigEndian (bytes : List UInt8) : ℕ := bytes.foldl (fun n b ↦ n * 256 + b.toNat) 0

@[simp] theorem length_toBigEndian (width n : ℕ) : (toBigEndian width n).length = width := by
  induction width generalizing n with
  | zero => rfl
  | succ width ih => rw [toBigEndian, List.length_append, ih, List.length_singleton]

theorem ofBigEndian_append (bytes : List UInt8) (b : UInt8) :
    ofBigEndian (bytes ++ [b]) = ofBigEndian bytes * 256 + b.toNat := by
  rw [ofBigEndian, List.foldl_append]
  rfl

theorem ofBigEndian_toBigEndian {width n : ℕ} (h : n < 256 ^ width) :
    ofBigEndian (toBigEndian width n) = n := by
  induction width generalizing n with
  | zero =>
    rw [pow_zero, Nat.lt_one_iff] at h
    rw [h]
    rfl
  | succ width ih =>
    have hquotient : n / 256 < 256 ^ width := by
      rw [pow_succ] at h
      exact Nat.div_lt_of_lt_mul (by rwa [Nat.mul_comm])
    rw [toBigEndian, ofBigEndian_append, ih hquotient, UInt8.toNat_ofNat']
    omega

theorem ofBigEndian_lt (bytes : List UInt8) : ofBigEndian bytes < 256 ^ bytes.length := by
  induction bytes using List.reverseRecOn with
  | nil => simp [ofBigEndian]
  | append_singleton bytes b ih =>
    have hb : b.toNat < 256 := b.toNat_lt
    rw [ofBigEndian_append, List.length_append, List.length_singleton, pow_succ]
    omega

theorem toBigEndian_ofBigEndian (bytes : List UInt8) :
    toBigEndian bytes.length (ofBigEndian bytes) = bytes := by
  induction bytes using List.reverseRecOn with
  | nil => rfl
  | append_singleton bytes b ih =>
    have hb : b.toNat < 256 := b.toNat_lt
    have hquotient : (ofBigEndian bytes * 256 + b.toNat) / 256 = ofBigEndian bytes := by omega
    have hbyte : UInt8.ofNat (ofBigEndian bytes * 256 + b.toNat) = b := by
      apply UInt8.toNat_inj.1
      rw [UInt8.toNat_ofNat']
      omega
    rw [List.length_append, List.length_singleton, ofBigEndian_append, toBigEndian, hquotient, ih,
      hbyte]

end Binary
