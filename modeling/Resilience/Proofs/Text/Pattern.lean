import Mathlib.Data.List.Forall2
import Resilience.Text.Pattern

/-!
# What patterns match

A pattern matches words, each between the character before it and the text after it
(`Pattern.Matches`). The places in which the pattern can end are the ends of these words
(`Pattern.mem_ends_iff`), so it occurs in a text just if it matches a word of it
(`Pattern.occursIn_iff`).
-/

namespace Resilience.Text.Pattern

/-- Whether the pattern matches a word, given the character before it and the text after it. -/
inductive Matches : Pattern → Option Char → List Char → List Char → Prop where
  | empty {before rest} : Matches empty before [] rest
  | one {test before c rest} : test c → Matches (one test) before [c] rest
  | many {test before w rest} : (∀ c ∈ w, test c) → Matches (many test) before w rest
  | boundary {before rest} : isBoundary before rest.head? → Matches boundary before [] rest
  /-- The second word has the first before it, or what was before that. -/
  | seq {p q before u v rest} : Matches p before u (v ++ rest) →
    Matches q (u.getLast?.or before) v rest → Matches (seq p q) before (u ++ v) rest
  | first {p q before w rest} : Matches p before w rest → Matches (either p q) before w rest
  | second {p q before w rest} : Matches q before w rest → Matches (either p q) before w rest

variable {p q : Pattern} {test : Char → Bool} {before last : Option Char} {cs w rest : List Char}

/-! ## Words of patterns -/

theorem matches_empty_iff : empty.Matches before w rest ↔ w = [] := by
  constructor
  · intro h
    cases h
    rfl
  · rintro rfl
    exact .empty

theorem matches_one_iff : (one test).Matches before w rest ↔ ∃ c, w = [c] ∧ test c := by
  constructor
  · intro h
    cases h with
    | one hc => exact ⟨_, rfl, hc⟩
  · rintro ⟨c, rfl, hc⟩
    exact .one hc

theorem matches_many_iff : (many test).Matches before w rest ↔ ∀ c ∈ w, test c := by
  constructor
  · intro h
    cases h with
    | many hw => exact hw
  · exact .many

theorem matches_boundary_iff :
    boundary.Matches before w rest ↔ w = [] ∧ isBoundary before rest.head? := by
  constructor
  · intro h
    cases h with
    | boundary hboundary => exact ⟨rfl, hboundary⟩
  · rintro ⟨rfl, hboundary⟩
    exact .boundary hboundary

theorem matches_append_iff : (p ++ q).Matches before w rest ↔ ∃ u v, w = u ++ v ∧
    p.Matches before u (v ++ rest) ∧ q.Matches (u.getLast?.or before) v rest := by
  constructor
  · intro h
    cases h with
    | seq hu hv => exact ⟨_, _, rfl, hu, hv⟩
  · rintro ⟨u, v, rfl, hu, hv⟩
    exact .seq hu hv

theorem matches_orElse_iff :
    (p <|> q).Matches before w rest ↔ p.Matches before w rest ∨ q.Matches before w rest := by
  constructor
  · intro h
    cases h with
    | first hw => exact .inl hw
    | second hw => exact .inr hw
  · rintro (hw | hw)
    · exact .first hw
    · exact .second hw

theorem matches_optional_iff :
    (optional p).Matches before w rest ↔ p.Matches before w rest ∨ w = [] := by
  rw [← @matches_empty_iff before w rest]
  exact matches_orElse_iff

theorem matches_oneOrMore_iff :
    (oneOrMore test).Matches before w rest ↔ w ≠ [] ∧ ∀ c ∈ w, test c := by
  simp only [oneOrMore, matches_append_iff, matches_one_iff, matches_many_iff]
  constructor
  · rintro ⟨_, v, rfl, ⟨c, rfl, hc⟩, hv⟩
    exact ⟨List.cons_ne_nil c v, by simpa [hc] using hv⟩
  · rintro ⟨hne, hw⟩
    cases w with
    | nil => exact absurd rfl hne
    | cons c w =>
      exact ⟨[c], w, rfl, ⟨c, rfl, hw c List.mem_cons_self⟩,
        fun d hd => hw d (List.mem_cons_of_mem c hd)⟩

/-- A pattern of one test after the other matches the words that pass them. -/
theorem matches_tests_iff {tests : List (Char → Bool)} :
    (tests.foldr (fun test p => one test ++ p) empty).Matches before w rest ↔
      List.Forall₂ (fun test c => test c) tests w := by
  induction tests generalizing before w with
  | nil => rw [List.foldr_nil, matches_empty_iff, List.forall₂_nil_left_iff]
  | cons test tests ih =>
    rw [List.foldr_cons, matches_append_iff, List.forall₂_cons_left_iff]
    simp only [matches_one_iff, ih]
    constructor
    · rintro ⟨_, v, rfl, ⟨c, rfl, hc⟩, hv⟩
      exact ⟨c, v, hc, hv, rfl⟩
    · rintro ⟨c, v, hc, hv, rfl⟩
      exact ⟨[c], v, rfl, ⟨c, rfl, hc⟩, hv⟩

theorem forall₂_eq_iff :
    List.Forall₂ (fun test c => test c) (cs.map fun c d => decide (d = c)) w ↔ w = cs := by
  have hsame : (fun c d : Char => decide (d = c) = true) = (· = ·) := by
    funext c d
    simp [eq_comm]
  rw [List.forall₂_map_left_iff, hsame, List.forall₂_eq_eq_eq, eq_comm]

theorem matches_exactly_iff {s : String} : (exactly s).Matches before w rest ↔ w = s.toList := by
  have htests : exactly s =
      (s.toList.map fun c d => decide (d = c)).foldr (fun test p => one test ++ p) empty := by
    rw [exactly, List.foldr_map]
  rw [htests, matches_tests_iff, forall₂_eq_iff]

theorem matches_append_exactly_iff {s : String} : (p ++ exactly s).Matches before w rest ↔
    ∃ u, w = u ++ s.toList ∧ p.Matches before u (s.toList ++ rest) := by
  simp only [matches_append_iff, matches_exactly_iff]
  constructor
  · rintro ⟨u, _, rfl, hu, rfl⟩
    exact ⟨u, rfl, hu⟩
  · rintro ⟨u, rfl, hu⟩
    exact ⟨u, _, rfl, hu, rfl⟩

theorem matches_letters_iff {s : String} : (letters s).Matches before w rest ↔
    List.Forall₂ (fun lower c => sameLetter lower c) s.toList w := by
  have htests : letters s =
      (s.toList.map sameLetter).foldr (fun test p => one test ++ p) empty := by
    rw [letters, List.foldr_map]
  rw [htests, matches_tests_iff, List.forall₂_map_left_iff]

/-! ## Places -/

theorem getLast?_cons_or (c : Char) (w : List Char) (before : Option Char) :
    (c :: w).getLast?.or before = w.getLast?.or (some c) := by
  rw [List.getLast?_cons]
  cases w.getLast? <;> rfl

theorem getLast?_append_or (u v : List Char) (before : Option Char) :
    (u ++ v).getLast?.or before = v.getLast?.or (u.getLast?.or before) := by
  rw [List.getLast?_append, Option.or_assoc]

theorem mem_manyEnds_iff :
    ⟨last, rest⟩ ∈ manyEnds test before cs ↔
      ∃ w, cs = w ++ rest ∧ last = w.getLast?.or before ∧ ∀ c ∈ w, test c := by
  induction cs generalizing before with
  | nil =>
    rw [manyEnds, List.mem_singleton, Place.mk.injEq]
    constructor
    · rintro ⟨rfl, rfl⟩
      exact ⟨[], rfl, rfl, by simp⟩
    · rintro ⟨w, hrest, hlast, _⟩
      obtain ⟨rfl, rfl⟩ := List.append_eq_nil_iff.1 hrest.symm
      exact ⟨hlast, rfl⟩
  | cons c cs ih =>
    rw [manyEnds, List.mem_cons, Place.mk.injEq]
    constructor
    · rintro (⟨rfl, rfl⟩ | h)
      · exact ⟨[], rfl, rfl, by simp⟩
      · split at h
        · next hc =>
          obtain ⟨w, rfl, rfl, hw⟩ := ih.1 h
          exact ⟨c :: w, rfl, (getLast?_cons_or c w before).symm, by simpa [hc] using hw⟩
        · cases h
    · rintro ⟨w, hcs, hlast, hw⟩
      cases w with
      | nil => exact .inl ⟨hlast, hcs.symm⟩
      | cons d w =>
        obtain ⟨rfl, rfl⟩ := List.cons_eq_cons.1 hcs
        rw [if_pos (hw c List.mem_cons_self)]
        rw [getLast?_cons_or] at hlast
        exact .inr (ih.2 ⟨w, rfl, hlast, fun d hd => hw d (List.mem_cons_of_mem c hd)⟩)

/-- By induction on the pattern. -/
theorem mem_ends_iff :
    ⟨last, rest⟩ ∈ p.ends ⟨before, cs⟩ ↔
      ∃ w, cs = w ++ rest ∧ last = w.getLast?.or before ∧ p.Matches before w rest := by
  induction p generalizing before last cs rest with
  | empty =>
    simp only [ends, List.mem_singleton, Place.mk.injEq, matches_empty_iff]
    constructor
    · rintro ⟨rfl, rfl⟩
      exact ⟨[], rfl, rfl, rfl⟩
    · rintro ⟨_, rfl, rfl, rfl⟩
      exact ⟨rfl, rfl⟩
  | one test =>
    simp only [matches_one_iff]
    cases cs with
    | nil =>
      simp only [ends, List.not_mem_nil, false_iff]
      rintro ⟨_, hnil, _, c, rfl, _⟩
      cases hnil
    | cons c cs =>
      simp only [ends]
      constructor
      · intro h
        split at h
        · next hc =>
          obtain ⟨rfl, rfl⟩ := Place.mk.inj (List.mem_singleton.1 h)
          exact ⟨[c], rfl, rfl, c, rfl, hc⟩
        · cases h
      · rintro ⟨_, hcs, rfl, d, rfl, hd⟩
        obtain ⟨rfl, rfl⟩ := List.cons_eq_cons.1 hcs
        rw [if_pos hd]
        exact .head _
  | many test => simp only [ends, mem_manyEnds_iff, matches_many_iff]
  | boundary =>
    simp only [ends, matches_boundary_iff]
    constructor
    · intro h
      split at h
      · next hboundary =>
        obtain ⟨rfl, rfl⟩ := Place.mk.inj (List.mem_singleton.1 h)
        exact ⟨[], rfl, rfl, rfl, hboundary⟩
      · cases h
    · rintro ⟨_, rfl, rfl, rfl, hboundary⟩
      rw [List.nil_append, if_pos hboundary]
      exact .head _
  | seq p q ihp ihq =>
    rw [ends, List.mem_flatMap]
    constructor
    · rintro ⟨⟨middle, cs'⟩, hp, hq⟩
      obtain ⟨u, rfl, rfl, hu⟩ := ihp.1 hp
      obtain ⟨v, rfl, rfl, hv⟩ := ihq.1 hq
      exact ⟨u ++ v, (List.append_assoc ..).symm, (getLast?_append_or u v before).symm, .seq hu hv⟩
    · rintro ⟨w, rfl, rfl, hw⟩
      obtain ⟨u, v, rfl, hu, hv⟩ := matches_append_iff.1 hw
      rw [List.append_assoc, getLast?_append_or]
      exact ⟨_, ihp.2 ⟨u, rfl, rfl, hu⟩, ihq.2 ⟨v, rfl, rfl, hv⟩⟩
  | either p q ihp ihq =>
    rw [ends, List.mem_append, ihp, ihq, ← exists_or]
    refine exists_congr fun w => ?_
    rw [← and_or_left, ← and_or_left]
    exact and_congr_right fun _ => and_congr_right fun _ => matches_orElse_iff.symm

/-! ## Occurrences -/

theorem exists_mem_ends_iff :
    (p.ends ⟨before, cs⟩).isEmpty = false ↔ ∃ w rest, cs = w ++ rest ∧ p.Matches before w rest := by
  rw [List.isEmpty_eq_false_iff_exists_mem]
  constructor
  · rintro ⟨⟨last, rest⟩, h⟩
    obtain ⟨w, hcs, _, hw⟩ := mem_ends_iff.1 h
    exact ⟨w, rest, hcs, hw⟩
  · rintro ⟨w, rest, hcs, hw⟩
    exact ⟨_, mem_ends_iff.2 ⟨w, hcs, rfl, hw⟩⟩

theorem occursFrom_iff :
    p.occursFrom before cs = true ↔
      ∃ l w r, cs = l ++ (w ++ r) ∧ p.Matches (l.getLast?.or before) w r := by
  induction cs generalizing before with
  | nil =>
    rw [occursFrom, Bool.not_eq_true', exists_mem_ends_iff]
    constructor
    · rintro ⟨w, r, hcs, hw⟩
      exact ⟨[], w, r, hcs, hw⟩
    · rintro ⟨l, w, r, hcs, hw⟩
      obtain ⟨rfl, hrest⟩ := List.append_eq_nil_iff.1 hcs.symm
      exact ⟨w, r, hrest.symm, hw⟩
  | cons c cs ih =>
    rw [occursFrom, Bool.or_eq_true, Bool.not_eq_true', exists_mem_ends_iff, ih]
    constructor
    · rintro (⟨w, r, hcs, hw⟩ | ⟨l, w, r, rfl, hw⟩)
      · exact ⟨[], w, r, hcs, hw⟩
      · exact ⟨c :: l, w, r, rfl, by rwa [getLast?_cons_or]⟩
    · rintro ⟨l, w, r, hcs, hw⟩
      cases l with
      | nil => exact .inl ⟨w, r, hcs, hw⟩
      | cons d l =>
        obtain ⟨rfl, rfl⟩ := List.cons_eq_cons.1 hcs
        rw [getLast?_cons_or] at hw
        exact .inr ⟨l, w, r, rfl, hw⟩

theorem occursIn_iff {text : String} :
    p.occursIn text = true ↔ ∃ l w r, text.toList = l ++ (w ++ r) ∧ p.Matches l.getLast? w r := by
  rw [occursIn, occursFrom_iff]
  simp only [Option.or_none]

end Resilience.Text.Pattern
