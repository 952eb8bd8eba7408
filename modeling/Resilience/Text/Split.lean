/-!
Splitting of text at characters of a class.
-/

namespace Resilience.Text

/-- The runs between the breaks of a text, empty ones included: one more than there are breaks. -/
def runs (isBreak : Char → Bool) : List Char → List (List Char)
  | [] => [[]]
  | c :: cs =>
    if isBreak c then [] :: runs isBreak cs
    else match runs isBreak cs with
      | first :: rest => (c :: first) :: rest
      | [] => [[c]]

theorem runs_ne_nil (isBreak : Char → Bool) (cs : List Char) : runs isBreak cs ≠ [] := by
  cases cs with
  | nil => simp [runs]
  | cons c cs =>
    rw [runs]
    split
    · simp
    · split <;> simp

theorem isBreak_of_mem_runs {isBreak : Char → Bool} {cs run : List Char}
    (hrun : run ∈ runs isBreak cs) : ∀ c ∈ run, isBreak c = false := by
  induction cs generalizing run with
  | nil =>
    rw [runs, List.mem_singleton] at hrun
    simp [hrun]
  | cons c cs ih =>
    rw [runs] at hrun
    split at hrun
    · rcases List.mem_cons.1 hrun with rfl | hrun
      · simp
      · exact ih hrun
    · next hc =>
      split at hrun
      · next first rest heq =>
        rcases List.mem_cons.1 hrun with rfl | hrun
        · intro d hd
          rcases List.mem_cons.1 hd with rfl | hd
          · simpa using hc
          · exact ih (heq ▸ List.mem_cons_self) d hd
        · exact ih (heq ▸ List.mem_cons_of_mem _ hrun)
      · next heq => exact absurd heq (runs_ne_nil isBreak cs)

end Resilience.Text
