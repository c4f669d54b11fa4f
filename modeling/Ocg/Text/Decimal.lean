import Mathlib.Algebra.Order.Ring.Int
import Mathlib.Data.List.Basic
import Mathlib.Data.List.Induction

/-!
# Prefixes and decimal numbers in texts

A text with a fixed prefix is read back by taking the prefix off, and a number by reading its
digits. Many digit strings have the same value, but only one of them is canonical: the one without
leading zeros is what the number prints as. So a reader that asks for the canonical form knows the
text from the number.
-/

namespace Text

/-! ## Prefixes -/

/-- What follows the prefix in a text that starts with it. -/
def stripPrefix (front text : String) : Option String :=
  (text.toList.dropPrefix? front.toList).map String.ofList

theorem stripPrefix_eq_some {front text back : String} :
    stripPrefix front text = some back ↔ text = front ++ back := by
  rw [stripPrefix, Option.map_eq_some_iff]
  constructor
  · rintro ⟨cs, hcs, rfl⟩
    obtain ⟨front', htext, hfront⟩ := List.dropPrefix?_eq_some_iff.1 hcs
    rw [beq_iff_eq] at hfront
    rw [← String.toList_inj, String.toList_append, String.toList_ofList, htext, hfront]
  · rintro rfl
    refine ⟨back.toList, ?_, String.ofList_toList⟩
    rw [String.toList_append, List.dropPrefix?_eq_some_iff]
    exact ⟨front.toList, rfl, beq_self_eq_true _⟩

@[simp] theorem stripPrefix_append (front back : String) :
    stripPrefix front (front ++ back) = some back :=
  stripPrefix_eq_some.2 rfl

/-! ## Decimal numbers -/

/-- The value of a nonempty string of decimal digits. -/
def digits? (cs : List Char) : Option ℕ :=
  if cs ≠ [] ∧ cs.all Char.isDigit then some (Nat.ofDigitChars 10 cs 0) else none

/-- A signed decimal number between two bounds. -/
def parseInt (lo hi : ℤ) (text : String) : Option ℤ := do
  let value ← match text.toList with
    | '+' :: digits => (digits? digits).map fun n ↦ (n : ℤ)
    | '-' :: digits => (digits? digits).map fun n ↦ -(n : ℤ)
    | digits => (digits? digits).map fun n ↦ (n : ℤ)
  if lo ≤ value ∧ value ≤ hi then some value else none

/-- Digits without a leading zero, or one digit. -/
def Canonical (cs : List Char) : Prop :=
  cs ≠ [] ∧ (∀ c ∈ cs, c.isDigit) ∧ (cs.head? = some '0' → cs.length = 1)

theorem digits?_of_canonical {cs : List Char} (h : Canonical cs) :
    digits? cs = some (Nat.ofDigitChars 10 cs 0) :=
  if_pos ⟨h.1, List.all_eq_true.2 h.2.1⟩

theorem exists_digitChar {c : Char} (h : c.isDigit) : ∃ d < 10, c = Nat.digitChar d := by
  rw [Char.isDigit, Bool.and_eq_true, decide_eq_true_eq, decide_eq_true_eq] at h
  have hlo : 48 ≤ c.toNat := h.1
  have hhi : c.toNat ≤ 57 := h.2
  refine ⟨c.toNat - 48, by omega, ?_⟩
  rw [← Char.toNat_inj, Nat.toNat_digitChar_of_lt_ten (by omega)]
  omega

theorem toDigits_ofDigitChars {cs : List Char} (h : Canonical cs) :
    Nat.toDigits 10 (Nat.ofDigitChars 10 cs 0) = cs := by
  induction cs using List.reverseRecOn with
  | nil => exact absurd rfl h.1
  | append_singleton cs c ih =>
    obtain ⟨d, hd, rfl⟩ := exists_digitChar (h.2.1 c (by simp))
    rw [Nat.ofDigitChars_append, Nat.ofDigitChars_cons_digitChar_of_lt_ten hd, Nat.ofDigitChars_nil]
    obtain rfl | hcs := eq_or_ne cs []
    · rw [Nat.ofDigitChars_nil, List.nil_append, Nat.mul_zero, Nat.zero_add,
        Nat.toDigits_of_lt_base hd]
    · -- a digit follows, so the first one is not a zero
      have hhead : cs.head? ≠ some '0' := by
        intro hzero
        have hlength := h.2.2 (by rw [List.head?_append, hzero, Option.some_or])
        rw [List.length_append, List.length_singleton] at hlength
        exact hcs (List.eq_nil_of_length_eq_zero (by omega))
      have hdigits := ih ⟨hcs, fun c hc ↦ h.2.1 c (List.mem_append_left _ hc), (absurd · hhead)⟩
      have hpos : 0 < Nat.ofDigitChars 10 cs 0 := by
        rw [Nat.pos_iff_ne_zero]
        intro hzero
        rw [hzero, Nat.toDigits_zero] at hdigits
        exact hhead (by rw [← hdigits, List.head?_cons])
      rw [← Nat.toDigits_append_toDigits (by omega) hpos hd, hdigits, Nat.toDigits_of_lt_base hd]

theorem canonical_toDigits (n : ℕ) : Canonical (Nat.toDigits 10 n) := by
  refine ⟨Nat.toDigits_ne_nil, fun c hc ↦
    Nat.isDigit_of_mem_toDigits (b := 10) (by omega) (by omega) hc, ?_⟩
  induction n using Nat.strongRecOn with
  | ind n ih =>
    intro hzero
    obtain hn | hn := lt_or_ge n 10
    · rw [Nat.toDigits_of_lt_base hn, List.length_singleton]
    · rw [Nat.toDigits_of_base_le (by omega) hn, List.head?_append_of_ne_nil _ Nat.toDigits_ne_nil]
        at hzero
      have hlength := ih (n / 10) (by omega) hzero
      -- the quotient is one digit, and that digit is a zero
      have hlt : n / 10 < 10 := by
        simpa using (Nat.length_toDigits_le_iff (by omega) (by omega)).1 hlength.le
      rw [Nat.toDigits_of_lt_base hlt, List.head?_cons, Option.some.injEq] at hzero
      have hdigit := congrArg Char.toNat hzero
      rw [Nat.toNat_digitChar_of_lt_ten hlt, show '0'.toNat = 48 from rfl] at hdigit
      omega

/-- The text of a canonical number is the number printed. -/
theorem eq_repr_of_canonical {text : String} (h : Canonical text.toList) :
    text = (Nat.ofDigitChars 10 text.toList 0).repr := by
  rw [← String.toList_inj, Nat.toList_repr, toDigits_ofDigitChars h]

theorem parseInt_of_canonical {lo hi : ℤ} {text : String} (h : Canonical text.toList) :
    parseInt lo hi text
      = if lo ≤ Nat.ofDigitChars 10 text.toList 0 ∧ (Nat.ofDigitChars 10 text.toList 0 : ℤ) ≤ hi
        then some (Nat.ofDigitChars 10 text.toList 0 : ℤ) else none := by
  rw [parseInt]
  split
  · rename_i digits heq
    exact absurd (h.2.1 '+' (by rw [heq]; exact List.mem_cons_self)) (by decide)
  · rename_i digits heq
    exact absurd (h.2.1 '-' (by rw [heq]; exact List.mem_cons_self)) (by decide)
  · rw [digits?_of_canonical h]
    rfl

@[simp] theorem parseInt_repr {lo hi : ℤ} {n : ℕ} (hlo : lo ≤ n) (hhi : n ≤ hi) :
    parseInt lo hi n.repr = some (n : ℤ) := by
  have hcanonical : Canonical n.repr.toList := Nat.toList_repr ▸ canonical_toDigits n
  rw [parseInt_of_canonical hcanonical, Nat.toList_repr, Nat.ofDigitChars_ten_toDigits,
    if_pos ⟨hlo, hhi⟩]

end Text
