import Mathlib.Data.List.TakeWhile
import Resilience.Json.Token

/-!
# Numbers as they are written

Whatever is read as a number is made of the characters of numbers and begins with a digit or a sign
(`chars_of_literal?`, `head_of_literal?`). An integer is read back from what is written of it
(`legible_int`); a floating-point number may be read as one that is next to it.
-/

namespace Resilience.Number

open Json.Token (isNumberChar)

variable {cs : List Char} {n : Literal} {m : Nat}

/-! ## The grammar -/

theorem isNumberChar_of_isDigit {c : Char} (h : c.isDigit) : isNumberChar c := by
  simp [isNumberChar, h]

theorem chars_of_exponentSign (h : ∀ c ∈ (exponentSign cs).2, c.isDigit) :
    ∀ c ∈ cs, isNumberChar c := by
  have hdigits : ∀ c ∈ (exponentSign cs).2, isNumberChar c :=
    fun c hc => isNumberChar_of_isDigit (h c hc)
  unfold exponentSign at hdigits
  split at hdigits
  · exact List.forall_mem_cons.2 ⟨rfl, hdigits⟩
  · exact List.forall_mem_cons.2 ⟨rfl, hdigits⟩
  · exact hdigits

theorem chars_of_splitExponent {e : Option (Bool × List Char)} (h : splitExponent cs = some e) :
    ∀ c ∈ cs, isNumberChar c := by
  unfold splitExponent at h
  split at h
  · simp
  · next mark rest =>
    simp only [Option.ite_none_right_eq_some, Option.ite_none_left_eq_some, Bool.or_eq_true,
      Bool.not_eq_true', not_or, Bool.not_eq_false, List.all_eq_true] at h
    obtain ⟨hmark, ⟨_, hdigits⟩, _⟩ := h
    have hmark : isNumberChar mark := by rcases hmark with rfl | rfl <;> rfl
    exact List.forall_mem_cons.2 ⟨hmark, chars_of_exponentSign hdigits⟩

/-- Digits at the beginning, and what the rest is known to be made of. -/
theorem chars_of_dropWhile (h : ∀ c ∈ cs.dropWhile Char.isDigit, isNumberChar c) :
    ∀ c ∈ cs, isNumberChar c := by
  intro c hc
  rw [← List.takeWhile_append_dropWhile (p := Char.isDigit) (l := cs), List.mem_append] at hc
  rcases hc with hc | hc
  · exact isNumberChar_of_isDigit (List.all_eq_true.1 List.all_takeWhile c hc)
  · exact h c hc

theorem chars_of_unsigned? {negative : Bool} (h : unsigned? negative cs = some n) :
    ∀ c ∈ cs, isNumberChar c := by
  rw [unsigned?, Option.ite_none_left_eq_some] at h
  obtain ⟨_, h⟩ := h
  refine chars_of_dropWhile ?_
  split at h
  · next rest heq =>
    rw [Option.ite_none_left_eq_some] at h
    obtain ⟨exponent, hexponent, _⟩ := Option.map_eq_some_iff.1 h.2
    rw [heq]
    exact List.forall_mem_cons.2 ⟨rfl, chars_of_dropWhile (chars_of_splitExponent hexponent)⟩
  · obtain ⟨exponent, hexponent, _⟩ := Option.map_eq_some_iff.1 h
    exact chars_of_splitExponent hexponent

theorem head_of_unsigned? {negative : Bool} (h : unsigned? negative cs = some n) :
    ∃ c ∈ cs.head?, c.isDigit := by
  rw [unsigned?, Option.ite_none_left_eq_some] at h
  cases cs with
  | nil => exact absurd rfl h.1
  | cons c rest =>
    refine ⟨c, rfl, Decidable.byContradiction fun hc => h.1 ?_⟩
    rw [List.takeWhile_cons_of_neg hc]
    rfl

theorem chars_of_literal? (h : literal? cs = some n) : ∀ c ∈ cs, isNumberChar c := by
  unfold literal? at h
  split at h
  · exact List.forall_mem_cons.2 ⟨rfl, chars_of_unsigned? h⟩
  · exact chars_of_unsigned? h

theorem head_of_literal? (h : literal? cs = some n) : ∃ c ∈ cs.head?, c.isDigit ∨ c = '-' := by
  unfold literal? at h
  split at h
  · exact ⟨'-', rfl, .inr rfl⟩
  · obtain ⟨c, hc, hdigit⟩ := head_of_unsigned? h
    exact ⟨c, hc, .inl hdigit⟩

/-! ## Integers -/

/-- What is written of the number is read as the number. -/
def Legible (x : Number) : Prop := (literal? x.text.toList).bind ofLiteral = some x

/-- There is no superfluous zero before the digits of a number. -/
theorem head?_toDigits (hm : m ≠ 0) : (Nat.toDigits 10 m).head? ≠ some '0' := by
  induction m using Nat.strongRecOn with
  | ind m ih =>
    by_cases hlt : m < 10
    · have hall : ∀ d : Fin 10, d.1 ≠ 0 → [d.1.digitChar].head? ≠ some '0' := by decide
      rw [Nat.toDigits_of_lt_base hlt]
      exact hall ⟨m, hlt⟩ hm
    · have htail := ih (m / 10) (by omega) (by omega)
      obtain ⟨c, cs, hcs⟩ := List.exists_cons_of_ne_nil (@Nat.toDigits_ne_nil (m / 10) 10)
      rw [Nat.toDigits_of_base_le (by decide) (by omega)]
      simpa [hcs] using htail

theorem unsigned?_toDigits (negative : Bool) (m : Nat) :
    unsigned? negative (Nat.toDigits 10 m) = some ⟨negative, Nat.toDigits 10 m, [], none⟩ := by
  have hdigits : ∀ c ∈ Nat.toDigits 10 m, c.isDigit = true :=
    fun c hc => Nat.isDigit_of_mem_toDigits (by decide) (by decide) hc
  have htake := List.takeWhile_eq_self_iff.2 hdigits
  have hdrop := List.dropWhile_eq_nil_iff.2 hdigits
  have hlead : ¬ (1 < (Nat.toDigits 10 m).length ∧ (Nat.toDigits 10 m).head? = some '0') := by
    by_cases hm : m = 0
    · subst hm
      decide
    · exact fun h => head?_toDigits hm h.2
  simp [unsigned?, htake, hdrop, hlead, splitExponent]

theorem literal?_toDigits (m : Nat) :
    literal? (Nat.toDigits 10 m) = some ⟨false, Nat.toDigits 10 m, [], none⟩ := by
  unfold literal?
  split
  · next rest heq =>
    have hmem : '-' ∈ Nat.toDigits 10 m := heq ▸ List.mem_cons_self
    exact absurd (Nat.isDigit_of_mem_toDigits (by decide) (by decide) hmem) (by decide)
  · exact unsigned?_toDigits false m

theorem le_ofDigitChars (start : Nat) (cs : List Char) : start ≤ Nat.ofDigitChars 10 cs start := by
  induction cs generalizing start with
  | nil => exact Nat.le_refl _
  | cons c cs ih =>
    have hstep := ih (10 * start + (c.toNat - '0'.toNat))
    rw [Nat.ofDigitChars_cons]
    omega

/-- No digit is left over if the number that they spell fits. -/
theorem significant_of_lt {start : Nat} (h : Nat.ofDigitChars 10 cs start < UInt64.size) :
    significant start cs = (Nat.ofDigitChars 10 cs start, cs.length, 0) := by
  induction cs generalizing start with
  | nil => rfl
  | cons c cs ih =>
    rw [Nat.ofDigitChars_cons] at h ⊢
    have hnext : 10 * start + Text.digitValue c < UInt64.size :=
      Nat.lt_of_le_of_lt (le_ofDigitChars _ cs) h
    have hcs : significant (10 * start + Text.digitValue c) cs = _ := ih h
    rw [significant, if_pos hnext, hcs]
    rfl

theorem ofLiteral_toDigits (h : m < UInt64.size) :
    ofLiteral ⟨false, Nat.toDigits 10 m, [], none⟩ = some (.int m) := by
  rw [ofLiteral, significant_of_lt (by rwa [Nat.ofDigitChars_ten_toDigits])]
  simp

theorem ofLiteral_toDigits_neg (hm : m ≠ 0) (h : m ≤ 1 <<< 63) :
    ofLiteral ⟨true, Nat.toDigits 10 m, [], none⟩ = some (.int (-m)) := by
  have hlt : m < UInt64.size := Nat.lt_of_le_of_lt h (by decide)
  rw [ofLiteral, significant_of_lt (by rwa [Nat.ofDigitChars_ten_toDigits])]
  simpa [hm] using h

theorem legible_int {i : Int} (hlow : -0x8000000000000000 ≤ i) (hhigh : i < 0x10000000000000000) :
    (int i).Legible := by
  rw [Legible, text, Int.toString_eq_repr, Int.repr_eq_if]
  split
  · next hsign =>
    obtain ⟨m, rfl⟩ := Int.eq_ofNat_of_zero_le hsign
    have hm : m < UInt64.size := by
      have hsize : (UInt64.size : Int) = 2 ^ 64 := rfl
      omega
    simp [Nat.repr_eq_ofList_toDigits, literal?_toDigits, ofLiteral_toDigits hm]
  · next hsign =>
    obtain ⟨m, hm⟩ := Int.eq_ofNat_of_zero_le (show 0 ≤ -i by omega)
    obtain rfl : i = -m := by omega
    have hvalue := ofLiteral_toDigits_neg (m := m) (by omega) (by omega)
    simp [Nat.repr_eq_ofList_toDigits, literal?, unsigned?_toDigits, hvalue]

end Resilience.Number
