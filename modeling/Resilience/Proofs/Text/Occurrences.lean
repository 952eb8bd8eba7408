import Resilience.Proofs.Text.Infix

/-!
# How often a word stands in a text

A word is counted in each place in which it begins (`occurrences`). The places in the parts of a text
are places in the text (`occurrences_append_le`), and there are no others if the word does not go
beyond a part (`occurrences_append_cons`).
-/

namespace Resilience.Text

variable {α : Type} [DecidableEq α] {w cs : List α} {d : α}

/-- The number of places in a text in which a word begins, for a word that is not empty. -/
def occurrences (w : List α) : List α → Nat
  | [] => 0
  | c :: cs => (if w <+: c :: cs then 1 else 0) + occurrences w cs

theorem occurrences_pos_iff (hw : w ≠ []) : 0 < occurrences w cs ↔ w <:+: cs := by
  induction cs with
  | nil => simp [occurrences, hw]
  | cons c cs ih =>
    rw [occurrences, List.infix_cons_iff, ← ih]
    split
    · next h => exact iff_of_true (by omega) (.inl h)
    · next h => rw [Nat.zero_add, or_iff_right h]

theorem occurrences_eq_zero_iff (hw : w ≠ []) : occurrences w cs = 0 ↔ ¬ w <:+: cs := by
  rw [← occurrences_pos_iff hw]
  omega

theorem occurrences_append_le (w l r : List α) :
    occurrences w l + occurrences w r ≤ occurrences w (l ++ r) := by
  induction l with
  | nil => simp [occurrences]
  | cons c l ih =>
    have hbegins (h : w <+: c :: l) : w <+: c :: (l ++ r) := h.trans (List.prefix_append (c :: l) r)
    rw [List.cons_append, occurrences, occurrences]
    split
    · next h =>
      rw [if_pos (hbegins h)]
      omega
    · omega

theorem occurrences_append_cons (hw : w ≠ []) (hd : d ∉ w) (l r : List α) :
    occurrences w (l ++ d :: r) = occurrences w l + occurrences w r := by
  induction l with
  | nil =>
    have hnot : ¬ w <+: d :: r := by
      rw [← List.nil_append (d :: r), prefix_append_cons_iff hd, List.prefix_nil]
      exact hw
    simp [occurrences, hnot]
  | cons c l ih =>
    have hbegins : w <+: c :: (l ++ d :: r) ↔ w <+: c :: l := prefix_append_cons_iff (l := c :: l) hd
    rw [List.cons_append, occurrences, occurrences, ih]
    simp only [hbegins]
    omega

/-- A word that stands in only one place stands in no other part of the text. -/
theorem not_infix_of_occurrences {l m r : List α} (hw : w ≠ []) (h : occurrences w (l ++ (m ++ r)) ≤ 1)
    (hm : w <:+: m) : ¬ w <:+: l ∧ ¬ w <:+: r := by
  have houter := occurrences_append_le w l (m ++ r)
  have hinner := occurrences_append_le w m r
  have hpos := (occurrences_pos_iff hw).2 hm
  rw [← occurrences_eq_zero_iff hw, ← occurrences_eq_zero_iff hw]
  omega

end Resilience.Text
