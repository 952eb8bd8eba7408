import Resilience.Text.Ranges

/-!
Character classes of the texts that are searched and scrubbed.
-/

namespace Resilience.Text

def inRanges (ranges : List (Nat × Nat)) (c : Char) : Bool :=
  ranges.any fun r => r.1 ≤ c.toNat && c.toNat ≤ r.2

/-- White space of every script. -/
def isBlank (c : Char) : Bool :=
  let n := c.toNat
  (9 ≤ n && n ≤ 13) || n = 32 || n = 0x85 || n = 0xa0 || n = 0x1680 ||
    (0x2000 ≤ n && n ≤ 0x200a) || n = 0x2028 || n = 0x2029 || n = 0x202f || n = 0x205f ||
    n = 0x3000

def isDigit (c : Char) : Bool :=
  if c.toNat < 128 then c.isDigit else inRanges digitRanges c

/-- Letters, marks, digits, connectors and joiners of every script. -/
def isWord (c : Char) : Bool :=
  if c.toNat < 128 then c.isAlphanum || c = '_' else inRanges wordRanges c

/-- Whether `c` is the letter `lower` when case is ignored. The Kelvin sign is a `k` and the long
s is an `s`. -/
def sameLetter (lower c : Char) : Bool :=
  c = lower || c.toLower = lower || (lower = 'k' && c = '\u212a') || (lower = 's' && c = '\u017f')

theorem isUpper_iff {c : Char} : c.isUpper ↔ 65 ≤ c.toNat ∧ c.toNat ≤ 90 := by
  have hval : c.isUpper ↔ c.val ≥ 'A'.val ∧ c.val ≤ 'Z'.val := decide_eq_true_iff
  exact hval

theorem isLower_iff {c : Char} : c.isLower ↔ 97 ≤ c.toNat ∧ c.toNat ≤ 122 := by
  have hval : c.isLower ↔ decide (c.val ≥ 'a'.val) ∧ decide (c.val ≤ 'z'.val) := Bool.and_eq_true_iff
  rw [hval, decide_eq_true_iff, decide_eq_true_iff]
  exact Iff.rfl

theorem isAlpha_iff {c : Char} : c.isAlpha ↔ c.isUpper ∨ c.isLower := Bool.or_eq_true_iff

theorem toNat_toLower {c : Char} (h : c.isUpper) : c.toLower.toNat = c.toNat + 32 := by
  have hrange := isUpper_iff.1 h
  have hlower : c.toLower.val = c.val + ('a'.val - 'A'.val) := congrArg Char.val (dif_pos hrange)
  calc c.toLower.toNat
    _ = (c.val + ('a'.val - 'A'.val)).toNat := congrArg UInt32.toNat hlower
    _ = (c.toNat + 32) % 2 ^ 32 := UInt32.toNat_add ..
    _ = c.toNat + 32 := Nat.mod_eq_of_lt (by omega)

theorem toLower_eq_self {c : Char} (h : ¬ c.isUpper) : c.toLower = c :=
  dif_neg fun hrange => h (isUpper_iff.2 hrange)

theorem isAlpha_of_toLower_ne {c : Char} (h : c.toLower ≠ c) : c.isAlpha ∧ c.toLower.isAlpha := by
  have hupper : c.isUpper := Decidable.byContradiction fun hc => h (toLower_eq_self hc)
  have hlower : c.toLower.isLower := by
    have hrange := isUpper_iff.1 hupper
    rw [isLower_iff, toNat_toLower hupper]
    omega
  exact ⟨isAlpha_iff.2 (.inl hupper), isAlpha_iff.2 (.inr hlower)⟩

/-- Whether two characters are delimited from each other: one is a word character and the other,
or the edge of the text, is not. -/
def isBoundary (before after : Option Char) : Bool :=
  before.any isWord != after.any isWord

/-- The lower-case letters of a character, which is two characters for a capital dotted I. -/
def lowerChar (c : Char) : List Char :=
  if c.toNat < 128 then [c.toLower]
  else if c.toNat = 0x130 then ['i', '\u0307']
  else match capitalRanges.find? fun (lo, hi, step, _) =>
      lo ≤ c.toNat && c.toNat ≤ hi && (c.toNat - lo) % step = 0 with
    | some (_, _, _, distance) => [Char.ofNat (c.toNat + distance).toNat]
    | none => [c]

/-- A text in lower case. A capital sigma becomes the same letter at the end of a word as within it. -/
def lower (s : String) : String := String.ofList (s.toList.flatMap lowerChar)

end Resilience.Text
