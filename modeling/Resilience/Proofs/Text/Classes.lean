import Resilience.Text.Chars

/-!
# Classes of characters

ASCII digits and letters by their codes, letters as word characters (`isWord_of_isAlpha`), and white
space, which no word holds (`isWord_of_isBlank`).
-/

namespace Resilience.Text

theorem isDigit_iff {c : Char} : c.isDigit ↔ 48 ≤ c.toNat ∧ c.toNat ≤ 57 := by
  have hval : c.isDigit ↔ c.val ≥ '0'.val ∧ c.val ≤ '9'.val := by
    rw [Char.isDigit, Bool.and_eq_true, decide_eq_true_iff, decide_eq_true_iff]
  exact hval

theorem isAlphanum_iff {c : Char} : c.isAlphanum ↔ 48 ≤ c.toNat ∧ c.toNat ≤ 57 ∨
    65 ≤ c.toNat ∧ c.toNat ≤ 90 ∨ 97 ≤ c.toNat ∧ c.toNat ≤ 122 := by
  rw [Char.isAlphanum, Bool.or_eq_true, isAlpha_iff, isUpper_iff, isLower_iff, isDigit_iff, or_comm]

theorem isWord_of_isAlpha {c : Char} (h : c.isAlpha) : isWord c := by
  have hcase := isAlpha_iff.1 h
  rw [isUpper_iff, isLower_iff] at hcase
  have hnum : c.isAlphanum := isAlphanum_iff.2 (.inr hcase)
  rw [isWord, if_pos (by omega), hnum, Bool.true_or]

theorem isAlpha_of_isLower_toLower {c : Char} (h : c.toLower.isLower) : c.isAlpha := by
  by_cases hc : c.toLower = c
  · exact isAlpha_iff.2 (.inr (hc ▸ h))
  · exact (isAlpha_of_toLower_ne hc).1

/-- The white space beyond ASCII. -/
def wideBlanks : List (Nat × Nat) :=
  [(0x85, 0x85), (0xa0, 0xa0), (0x1680, 0x1680), (0x2000, 0x200a), (0x2028, 0x2029), (0x202f, 0x202f),
    (0x205f, 0x205f), (0x3000, 0x3000)]

theorem wordRanges_disjoint_wideBlanks :
    wordRanges.all fun r => wideBlanks.all fun b => r.2 < b.1 || b.2 < r.1 := by
  decide +kernel

theorem isWord_of_isBlank {c : Char} (h : isBlank c) : isWord c = false := by
  have hcases : c.toNat < 128 ∧ (9 ≤ c.toNat ∧ c.toNat ≤ 13 ∨ c.toNat = 32) ∨
      128 ≤ c.toNat ∧ ∃ b ∈ wideBlanks, b.1 ≤ c.toNat ∧ c.toNat ≤ b.2 := by
    simp [isBlank] at h
    simp [wideBlanks]
    omega
  rcases hcases with ⟨hlt, hrange⟩ | ⟨hge, b, hb, hrange⟩
  · have hnum : ¬ c.isAlphanum := by
      rw [isAlphanum_iff]
      omega
    have hne : c ≠ '_' := by
      rintro rfl
      revert hrange
      decide
    simp [isWord, hlt, hnum, hne]
  · rw [isWord, if_neg (by omega), inRanges, List.any_eq_false]
    intro r hr
    have hdisjoint := List.all_eq_true.1 (List.all_eq_true.1 wordRanges_disjoint_wideBlanks r hr) b hb
    simp at hdisjoint ⊢
    omega

end Resilience.Text
