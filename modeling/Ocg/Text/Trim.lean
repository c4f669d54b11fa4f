import Mathlib.Data.List.Basic

/-!
# Trimming

A text without the characters of a class at its ends. Two classes are in use: the white space of
Unicode, and the single space.
-/

namespace Text

/-- The text without the characters of a class at its ends. -/
def trimBy (p : Char → Bool) (text : String) : String :=
  String.ofList (((text.toList.dropWhile p).reverse.dropWhile p).reverse)

/-- The `White_Space` property of Unicode. -/
def isWhitespace (c : Char) : Bool :=
  (9 ≤ c.toNat ∧ c.toNat ≤ 13) ∨ (8192 ≤ c.toNat ∧ c.toNat ≤ 8202)
    ∨ c.toNat ∈ [32, 133, 160, 5760, 8232, 8233, 8239, 8287, 12288]

/-- `str::trim`. -/
def trim (text : String) : String := trimBy isWhitespace text

end Text
