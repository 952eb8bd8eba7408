import Resilience.Proofs.Text.Infix

/-!
# Runs and where they stand

The runs of a text are the words in it that are cut off on both sides by a break or by an edge of the
text (`mem_runs_iff`), in the order in which they stand there: the first run that passes a test is the
one with the least text before it (`find?_runs_eq_some_iff`).
-/

namespace Resilience.Text

variable {isBreak : Char → Bool} {cs p u s w rest : List Char} {test : List Char → Bool}

/-- A run of a text with what is before and behind it, which a break or an edge of the text cuts off. -/
structure IsRun (isBreak : Char → Bool) (p u s : List Char) : Prop where
  run : ∀ c ∈ u, isBreak c = false
  before : ∀ c ∈ p.getLast?, isBreak c
  behind : ∀ c ∈ s.head?, isBreak c

/-- A text is its first run and what is behind it. -/
theorem run_induction (isBreak : Char → Bool) {motive : List Char → Prop}
    (step : ∀ w rest, IsRun isBreak [] w rest → (∀ d r, rest = d :: r → motive r) →
      motive (w ++ rest)) (cs : List Char) : motive cs := by
  obtain ⟨w, rest, hcs, _, hw, hrest⟩ := exists_takeWhile_eq (!isBreak ·) cs
  have hrun : IsRun isBreak [] w rest := by
    refine ⟨fun c hc => by simpa using hw c hc, by simp, fun c hc => by simpa using hrest c hc⟩
  rw [hcs]
  refine step w rest hrun fun d r hr => ?_
  have : r.length < cs.length := by simp [hcs, hr]; omega
  exact run_induction isBreak step r
termination_by cs.length

namespace IsRun

theorem takeWhile_eq (h : IsRun isBreak p u s) : (u ++ s).takeWhile (!isBreak ·) = u :=
  takeWhile_append_eq_left (fun c hc => by simp [h.run c hc]) (fun c hc => by simp [h.behind c hc])

theorem before_cons {d : Char} (hd : isBreak d) {q : List Char} :
    IsRun isBreak (w ++ d :: q) u s ↔ IsRun isBreak q u s := by
  have hlast : (∀ c ∈ (w ++ d :: q).getLast?, isBreak c) ↔ ∀ c ∈ q.getLast?, isBreak c := by
    rw [List.getLast?_append, List.getLast?_cons]
    cases q.getLast? <;> simp [hd]
  exact ⟨fun h => ⟨h.run, hlast.1 h.before, h.behind⟩, fun h => ⟨h.run, hlast.2 h.before, h.behind⟩⟩

/-- What is before a run that is not the first one goes beyond the first one. -/
theorem exists_before_eq (hw : IsRun isBreak [] w rest) (h : IsRun isBreak p u s)
    (heq : w ++ rest = p ++ (u ++ s)) (hp : p ≠ []) : ∃ d q, p = w ++ d :: q := by
  -- It ends in a break, and there is none in the first run.
  have hnot (z : List Char) : w ≠ p ++ z := by
    rintro rfl
    have hlast := List.getLast?_eq_some_getLast hp
    have hmem : p.getLast hp ∈ p ++ z := List.mem_append_left z (List.getLast_mem hp)
    simpa [hw.run _ hmem] using h.before _ hlast
  rcases List.append_eq_append_iff.1 heq with ⟨z, hp', _⟩ | ⟨z, hw', _⟩
  · cases z with
    | nil => exact absurd (by simp [hp']) (hnot [])
    | cons d q => exact ⟨d, q, hp'⟩
  · exact absurd hw' (hnot z)

/-- A run is the first one, or one of what is behind the break that ends the first one. -/
theorem append_iff (hw : IsRun isBreak [] w rest) :
    w ++ rest = p ++ (u ++ s) ∧ IsRun isBreak p u s ↔ p = [] ∧ u = w ∧ s = rest ∨
      ∃ d q, p = w ++ d :: q ∧ rest = d :: (q ++ (u ++ s)) ∧ IsRun isBreak q u s := by
  constructor
  · rintro ⟨heq, hrun⟩
    by_cases hp : p = []
    · subst hp
      have hu : u = w := by
        rw [← hrun.takeWhile_eq, ← hw.takeWhile_eq, heq, List.nil_append]
      subst hu
      exact .inl ⟨rfl, rfl, (List.append_cancel_left heq).symm⟩
    · obtain ⟨d, q, rfl⟩ := hw.exists_before_eq hrun heq hp
      rw [List.append_assoc] at heq
      obtain rfl := List.append_cancel_left heq
      exact .inr ⟨d, q, rfl, rfl, (before_cons (hw.behind d rfl)).1 hrun⟩
  · rintro (⟨rfl, rfl, rfl⟩ | ⟨d, q, rfl, rfl, hrun⟩)
    · exact ⟨rfl, hw⟩
    · exact ⟨by simp, (before_cons (hw.behind d rfl)).2 hrun⟩

end IsRun

/-- The runs of a text are its first run and the runs of what is behind the break that ends it. -/
theorem runs_first (hw : IsRun isBreak [] w rest) : runs isBreak (w ++ rest) = w ::
    match rest with
    | [] => []
    | _ :: r => runs isBreak r := by
  cases rest with
  | nil => rw [List.append_nil, runs_eq_singleton hw.run]
  | cons d r => rw [runs_append_cons (hw.behind d rfl), runs_eq_singleton hw.run]; rfl

/-- The first run of a text that passes a test, by induction on the text from run to run. -/
theorem find?_runs_eq_some_iff : (runs isBreak cs).find? test = some u ↔ test u ∧
    ∃ p s, (cs = p ++ (u ++ s) ∧ IsRun isBreak p u s) ∧
      ∀ q v t, cs = q ++ (v ++ t) ∧ IsRun isBreak q v t → test v → p.length ≤ q.length := by
  induction cs using run_induction isBreak generalizing u with
  | step w rest hw ih =>
    rw [runs_first hw]
    simp only [hw.append_iff]
    cases htest : test w with
    | true =>
      rw [List.find?_cons_of_pos htest, Option.some.injEq]
      constructor
      · rintro rfl
        exact ⟨htest, [], rest, .inl ⟨rfl, rfl, rfl⟩, fun _ _ _ _ _ => Nat.zero_le _⟩
      · rintro ⟨_, p, s, ⟨_, rfl, _⟩ | ⟨d, q, rfl, _⟩, hleast⟩
        · rfl
        · simpa using hleast [] w rest (.inl ⟨rfl, rfl, rfl⟩) htest
    | false =>
      rw [List.find?_cons_of_neg (by simp [htest])]
      have hnot {v : List Char} (hv : test v) : v ≠ w := by
        rintro rfl
        simp [htest] at hv
      cases rest with
      | nil =>
        simp only [List.find?_nil, reduceCtorEq, false_iff]
        rintro ⟨hu, p, s, ⟨_, heq, _⟩ | ⟨_, _, _, hnil, _⟩, _⟩
        · exact hnot hu heq
        · cases hnil
      | cons d r =>
        -- What is before a run of `r` is longer in the whole text by the same for each of them.
        rw [ih d r rfl]
        constructor
        · rintro ⟨hu, q, s, ⟨rfl, hrun⟩, hleast⟩
          refine ⟨hu, w ++ d :: q, s, .inr ⟨d, q, rfl, rfl, hrun⟩, ?_⟩
          rintro _ v t (⟨_, heq, _⟩ | ⟨e, q', rfl, hr, hrun'⟩) hv
          · exact absurd heq (hnot hv)
          · have hle := hleast q' v t ⟨(List.cons.inj hr).2, hrun'⟩ hv
            simpa using hle
        · rintro ⟨hu, _, s, ⟨_, heq, _⟩ | ⟨e, q, rfl, hr, hrun⟩, hleast⟩
          · exact absurd heq (hnot hu)
          · refine ⟨hu, q, s, ⟨(List.cons.inj hr).2, hrun⟩, fun q' v t h hv => ?_⟩
            have hle := hleast (w ++ d :: q') v t (.inr ⟨d, q', rfl, by rw [h.1], h.2⟩) hv
            simpa using hle

theorem mem_runs_iff : u ∈ runs isBreak cs ↔ ∃ p s, cs = p ++ (u ++ s) ∧ IsRun isBreak p u s := by
  induction cs using run_induction isBreak with
  | step w rest hw ih =>
    rw [runs_first hw]
    simp only [hw.append_iff]
    cases rest with
    | nil => simp
    | cons d r =>
      rw [List.mem_cons, ih d r rfl]
      constructor
      · rintro (rfl | ⟨q, s, rfl, hrun⟩)
        · exact ⟨[], d :: r, .inl ⟨rfl, rfl, rfl⟩⟩
        · exact ⟨w ++ d :: q, s, .inr ⟨d, q, rfl, rfl, hrun⟩⟩
      · rintro ⟨_, s, ⟨_, heq, _⟩ | ⟨e, q, rfl, hr, hrun⟩⟩
        · exact .inl heq
        · exact .inr ⟨q, s, (List.cons.inj hr).2, hrun⟩

end Resilience.Text
