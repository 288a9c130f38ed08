import Mathlib.Tactic

/-!
# Bytes and characters

Texts are lists of characters, encoded in UTF-8 where bytes are wanted; hexadecimal digits are
lower-case.
-/

namespace AgentRuntimeOps.Lib

/-! The instances that a membership test in a definition carries, each under one name. -/

instance instLawfulBEqListNat : LawfulBEq (List Nat) := inferInstance

instance instLawfulBEqListChar : LawfulBEq (List Char) := inferInstance

/-- The characters of a text in UTF-8. -/
def utf8 (text : List Char) : List UInt8 := text.flatMap String.utf8EncodeChar

@[simp] lemma utf8_append (s t : List Char) : utf8 (s ++ t) = utf8 s ++ utf8 t := by
  simp [utf8]

/-- ASCII characters take one byte. -/
lemma length_utf8_of_ascii {text : List Char} (h : ∀ c ∈ text, c.toNat ≤ 127) :
    (utf8 text).length = text.length := by
  have hsize : ∀ c ∈ text, (String.utf8EncodeChar c).length = 1 := by
    intro c hc
    rw [String.length_utf8EncodeChar, Char.utf8Size_eq_one_iff, UInt32.le_iff_toNat_le]
    exact h c hc
  rw [utf8, List.length_flatMap, List.map_congr_left hsize]
  simp

/-- The lower-case hexadecimal digit of `n < 16`. -/
def hexDigit (n : Nat) : Char := "0123456789abcdef".toList.getD n '0'

/-- A lower-case hexadecimal digit. -/
def isHexDigit (c : Char) : Bool := c.isDigit || ('a' ≤ c && c ≤ 'f')

lemma toNat_le_of_isHexDigit {c : Char} (h : isHexDigit c = true) : c.toNat ≤ 127 := by
  simp only [isHexDigit, Char.isDigit, Bool.or_eq_true, Bool.and_eq_true, decide_eq_true_eq] at h
  rcases h with ⟨-, h⟩ | ⟨-, h⟩
  · exact le_trans (UInt32.le_iff_toNat_le.mp h) (by decide)
  · exact le_trans (UInt32.le_iff_toNat_le.mp h) (by decide)

lemma isHexDigit_hexDigit {n : Nat} (h : n < 16) : isHexDigit (hexDigit n) = true := by
  interval_cases n <;> decide

end AgentRuntimeOps.Lib
