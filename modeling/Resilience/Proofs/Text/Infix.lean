import Mathlib.Data.List.Infix
import Mathlib.Data.List.TakeWhile
import Resilience.Text.Split

/-!
# Words in texts

When a word stands in a text that is put together from others: it is in one of them if what joins
them is not in the word (`infix_append_cons_iff`), and a word without breaks is in a text if and only
if it is in one of its runs (`infix_iff_runs`).
-/

namespace Resilience.Text

variable {α : Type} {w l r : List α}

/-- A word stands in the first of two texts if its last character is not in the second. -/
theorem infix_of_infix_append {last : α} (h : w ++ [last] <:+: l ++ r) (hlast : last ∉ r) :
    w ++ [last] <:+: l := by
  obtain ⟨before, after, h⟩ := h
  rcases List.append_eq_append_iff.1 h with ⟨rest, hl, _⟩ | ⟨crossing, hword, hr⟩
  · exact ⟨before, rest, hl.symm⟩
  · rcases List.eq_nil_or_concat crossing with rfl | ⟨crossing, d, rfl⟩
    · exact ⟨before, [], by simpa using hword⟩
    · rw [List.concat_eq_append, ← List.append_assoc, ← List.append_assoc] at hword
      obtain ⟨_, hd⟩ := List.append_inj' hword rfl
      obtain rfl : last = d := by simpa using hd
      exact absurd (by simp [hr]) hlast

/-- A word stands in the second of two texts if its first character is not in the first. -/
theorem infix_of_infix_append_left {first : α} (h : first :: w <:+: l ++ r) (hfirst : first ∉ l) :
    first :: w <:+: r := by
  rw [← List.reverse_infix, List.reverse_append, List.reverse_cons] at h
  rw [← List.reverse_infix, List.reverse_cons]
  exact infix_of_infix_append h (by simpa using hfirst)

theorem infix_append_cons_iff {d : α} (hd : d ∉ w) : w <:+: l ++ d :: r ↔ w <:+: l ∨ w <:+: r := by
  constructor
  · rintro ⟨before, after, h⟩
    rcases List.append_eq_append_iff.1 h with ⟨rest, hl, _⟩ | ⟨crossing, hword, hr⟩
    · exact .inl ⟨before, rest, hl.symm⟩
    · cases crossing with
      | nil => exact .inl ⟨before, [], by simpa using hword⟩
      | cons c crossing =>
        obtain ⟨rfl, rfl⟩ := List.cons_eq_cons.1 hr
        rcases List.append_eq_append_iff.1 hword with ⟨front, _, hw⟩ | ⟨gap, _, hrest⟩
        · exact absurd (by simp [hw]) hd
        · cases gap with
          | nil => exact absurd (by simp [← hrest.trans (List.nil_append w)]) hd
          | cons e gap =>
            obtain ⟨_, rfl⟩ := List.cons_eq_cons.1 hrest
            exact .inr ⟨gap, after, by simp⟩
  · rintro (h | h)
    · exact h.trans (List.prefix_append _ _).isInfix
    · exact (h.trans (List.infix_cons (List.infix_refl r))).trans (List.suffix_append _ _).isInfix

/-- A suffix of two texts is one of the second, or begins in the first. -/
theorem suffix_append_cases {ys : List α} (h : ys <:+ l ++ r) :
    ys <:+ r ∨ ∃ s, s <:+ l ∧ s ≠ [] ∧ ys = s ++ r := by
  obtain ⟨front, h⟩ := h
  rcases List.append_eq_append_iff.1 h with ⟨s, hl, hys⟩ | ⟨gap, _, hr⟩
  · by_cases hs : s = []
    · exact .inl (by rw [hys, hs, List.nil_append])
    · exact .inr ⟨s, ⟨front, hl.symm⟩, hs, hys⟩
  · exact .inl ⟨gap, hr.symm⟩

/-- Behind an element that is not in the first of two lists comes one of the second. -/
theorem mem_right_of_append_eq {b c : α} {u v : List α} (h : u ++ v = l ++ b :: c :: r) (hb : b ∉ u) :
    c ∈ v := by
  rcases List.append_eq_append_iff.1 h with ⟨z, _, hv⟩ | ⟨z, hu, hr⟩
  · simp [hv]
  · cases z with
    | nil => simp [← hr.trans (List.nil_append v)]
    | cons d z =>
      obtain ⟨rfl, _⟩ := List.cons_eq_cons.1 hr
      exact absurd (by simp [hu]) hb

theorem prefix_append_cons_iff {d : α} (hd : d ∉ w) : w <+: l ++ d :: r ↔ w <+: l := by
  constructor
  · rintro ⟨after, h⟩
    rcases List.append_eq_append_iff.1 h with ⟨rest, hl, _⟩ | ⟨crossing, hword, hr⟩
    · exact ⟨rest, hl.symm⟩
    · cases crossing with
      | nil => exact ⟨[], by simpa using hword⟩
      | cons c crossing =>
        obtain ⟨rfl, _⟩ := List.cons_eq_cons.1 hr
        exact absurd (by simp [hword]) hd
  · intro h
    exact h.trans (List.prefix_append _ _)

/-! ## Runs -/

/-- The longest run of elements of a class that a list begins with. -/
theorem exists_takeWhile_eq (p : α → Bool) (xs : List α) : ∃ run rest, xs = run ++ rest ∧
    xs.takeWhile p = run ∧ (∀ x ∈ run, p x) ∧ ∀ x ∈ rest.head?, p x = false := by
  induction xs with
  | nil => exact ⟨[], [], rfl, rfl, by simp, by simp⟩
  | cons x xs ih =>
    cases hx : p x with
    | true =>
      obtain ⟨run, rest, rfl, htake, hrun, hrest⟩ := ih
      exact ⟨x :: run, rest, rfl, by simp [hx, htake], by simpa [hx] using hrun, hrest⟩
    | false => exact ⟨[], x :: xs, rfl, by simp [hx], by simp, by simpa using hx⟩

theorem takeWhile_append_of_head? {p : α → Bool} (hr : ∀ d ∈ r.head?, p d = false) :
    (l ++ r).takeWhile p = l.takeWhile p := by
  induction l with
  | nil =>
    cases r with
    | nil => rfl
    | cons d r => simp [hr d rfl]
  | cons c l ih => by_cases hc : p c <;> simp [hc, ih]

theorem dropWhile_append_of_head? {p : α → Bool} (hr : ∀ d ∈ r.head?, p d = false) :
    (l ++ r).dropWhile p = l.dropWhile p ++ r := by
  induction l with
  | nil =>
    cases r with
    | nil => rfl
    | cons d r => simp [hr d rfl]
  | cons c l ih => by_cases hc : p c <;> simp [hc, ih]

theorem takeWhile_append_eq_left {p : α → Bool} (hl : ∀ x ∈ l, p x)
    (hr : ∀ x ∈ r.head?, p x = false) : (l ++ r).takeWhile p = l := by
  rw [takeWhile_append_of_head? hr, List.takeWhile_eq_self_iff]
  exact hl

variable {isBreak : Char → Bool}

theorem exists_runs_eq (isBreak : Char → Bool) (cs : List Char) :
    ∃ rest, runs isBreak cs = cs.takeWhile (!isBreak ·) :: rest := by
  induction cs with
  | nil => exact ⟨[], rfl⟩
  | cons c cs ih =>
    obtain ⟨rest, ih⟩ := ih
    rw [runs]
    cases hc : isBreak c with
    | true => exact ⟨runs isBreak cs, by simp [hc]⟩
    | false => exact ⟨rest, by simp [hc, ih]⟩

theorem runs_eq_singleton {w : List Char} (h : ∀ c ∈ w, isBreak c = false) : runs isBreak w = [w] := by
  induction w with
  | nil => rfl
  | cons c w ih => simp [runs, h c List.mem_cons_self, ih fun d hd => h d (List.mem_cons_of_mem _ hd)]

/-- A break belongs to no run. -/
theorem runs_append_cons {d : Char} (hd : isBreak d) (l r : List Char) :
    runs isBreak (l ++ d :: r) = runs isBreak l ++ runs isBreak r := by
  induction l with
  | nil => simp [runs, hd]
  | cons c l ih =>
    rw [List.cons_append, runs, runs]
    cases hc : isBreak c with
    | true => simp [ih]
    | false =>
      obtain ⟨rest, hruns⟩ := exists_runs_eq isBreak l
      simp [ih, hruns]

theorem prefix_takeWhile_iff {α : Type} {p : α → Bool} {w cs : List α} (hw : ∀ c ∈ w, p c) :
    w <+: cs.takeWhile p ↔ w <+: cs := by
  constructor
  · intro h
    exact h.trans (List.takeWhile_prefix p)
  · rintro ⟨rest, rfl⟩
    rw [List.takeWhile_append_of_pos hw]
    exact List.prefix_append _ _

/-- By induction on the text. A word that begins in front of the first run is in front of the text. -/
theorem infix_iff_runs {w cs : List Char} (hne : w ≠ []) (hw : ∀ c ∈ w, isBreak c = false) :
    w <:+: cs ↔ ∃ run ∈ runs isBreak cs, w <:+: run := by
  induction cs with
  | nil => simp [runs]
  | cons c cs ih =>
    rw [List.infix_cons_iff, ih, runs]
    cases hc : isBreak c with
    | true =>
      have hhead : ¬ w <+: c :: cs := by
        rintro ⟨rest, h⟩
        cases w with
        | nil => exact hne rfl
        | cons d w =>
          obtain ⟨rfl, _⟩ := List.cons_eq_cons.1 h
          simp [hw d List.mem_cons_self] at hc
      simp [hhead, hne]
    | false =>
      obtain ⟨rest, hruns⟩ := exists_runs_eq isBreak cs
      have hhead : w <+: c :: cs ↔ w <+: c :: cs.takeWhile (!isBreak ·) := by
        rw [← prefix_takeWhile_iff (p := (!isBreak ·)) (by simpa using hw), List.takeWhile_cons]
        simp [hc]
      simp [hruns, hhead, List.infix_cons_iff, or_assoc]

end Resilience.Text
