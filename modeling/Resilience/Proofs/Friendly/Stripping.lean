import Resilience.Proofs.Friendly.Privacy
import Resilience.Proofs.Text.Pattern

/-!
# Patterns of paths

The paths of a family are the words that a pattern matches (`Spells`), so a text has no path of the
family just if the pattern does not occur in it. No pattern of a path occurs in a text whose paths
are reduced, and there is nothing left to be reduced (`Scrub.stripPaths_idempotent`).
-/

namespace Resilience.Scrub

open Text (Pattern)
open Text.Pattern hiding exactly

/-! ## Patterns -/

def homePath : Pattern :=
  (Pattern.exactly "/Users" <|> Pattern.exactly "/home") ++ Pattern.exactly "/" ++ oneOrMore inPath

def temporaryPath : Pattern :=
  optional (Pattern.exactly "/private") ++ Pattern.exactly "/var/folders/" ++ oneOrMore inPath

/-- Letters in any case. -/
def drivePath : Pattern := one isDriveLetter ++ letters ":\\users\\" ++ oneOrMore inPath

def pathPatterns : List Pattern := [homePath, temporaryPath, drivePath]

/-- Whether none of the patterns occurs in a text. -/
def Pathless (text : String) : Prop := ∀ p ∈ pathPatterns, p.occursIn text = false

instance (text : String) : Decidable (Pathless text) :=
  inferInstanceAs (Decidable (∀ p ∈ pathPatterns, p.occursIn text = false))

/-- Whether a text is one of the beginnings that the paths of a family have. -/
def Family.IsBeginning (f : Family) (u : List Char) : Prop :=
  ∃ head ∈ f.heads, List.Forall₂ (fun test c => test c) head u

/-- Whether a pattern matches the paths of a family, whatever is around them. -/
def Spells (p : Pattern) (f : Family) : Prop :=
  ∀ before w rest, p.Matches before w rest ↔
    ∃ u v, w = u ++ v ∧ f.IsBeginning u ∧ v ≠ [] ∧ ∀ c ∈ v, inPath c

section

variable {p : Pattern} {f : Family}

theorem spells_of_beginning
    (h : ∀ before u rest, p.Matches before u rest ↔ f.IsBeginning u) :
    Spells (p ++ oneOrMore inPath) f := by
  intro before w rest
  simp only [matches_append_iff, matches_oneOrMore_iff, h]

theorem isBeginning_home {u : List Char} :
    home.IsBeginning u ↔ u = "/Users/".toList ∨ u = "/home/".toList := by
  simp only [Family.IsBeginning, home, exactly, List.mem_cons, List.not_mem_nil, or_false,
    exists_eq_or_imp, exists_eq_left, forall₂_eq_iff]

theorem spells_homePath : Spells homePath home := by
  refine spells_of_beginning fun before u rest => ?_
  simp only [matches_append_exactly_iff, matches_orElse_iff, matches_exactly_iff, and_or_left,
    exists_or, exists_eq_right, isBeginning_home]
  rfl

theorem isBeginning_temporary {u : List Char} : temporary.IsBeginning u ↔
    u = "/private/var/folders/".toList ∨ u = "/var/folders/".toList := by
  simp only [Family.IsBeginning, temporary, exactly, List.mem_cons, List.not_mem_nil, or_false,
    exists_eq_or_imp, exists_eq_left, forall₂_eq_iff]

theorem spells_temporaryPath : Spells temporaryPath temporary := by
  refine spells_of_beginning fun before u rest => ?_
  simp only [matches_append_exactly_iff, matches_optional_iff, matches_exactly_iff, and_or_left,
    exists_or, exists_eq_right, isBeginning_temporary]
  rfl

theorem isBeginning_drive {u : List Char} : drive.IsBeginning u ↔ ∃ c v, isDriveLetter c ∧
    List.Forall₂ (fun lower c => Text.sameLetter lower c) ":\\users\\".toList v ∧ u = c :: v := by
  simp only [Family.IsBeginning, drive, anyCase, List.mem_singleton, exists_eq_left,
    List.forall₂_cons_left_iff, List.forall₂_map_left_iff]

theorem spells_drivePath : Spells drivePath drive := by
  refine spells_of_beginning fun before u rest => ?_
  simp only [matches_append_iff, matches_one_iff, matches_letters_iff, isBeginning_drive]
  constructor
  · rintro ⟨_, v, rfl, ⟨c, rfl, hc⟩, hv⟩
    exact ⟨c, v, hc, hv, rfl⟩
  · rintro ⟨c, v, hc, hv, rfl⟩
    exact ⟨[c], v, rfl, ⟨c, rfl, hc⟩, hv⟩

/-! ## Occurrences of paths -/

theorem Family.begins_iff {cs : List Char} : f.Begins cs ↔
    ∃ u v rest, cs = u ++ (v ++ rest) ∧ f.IsBeginning u ∧ v ≠ [] ∧ ∀ c ∈ v, inPath c := by
  constructor
  · rintro ⟨head, hhead, h⟩
    rw [beginsWith_append, Bool.and_eq_true] at h
    obtain ⟨u, rest, rfl, hu⟩ := beginsWith_iff.1 h.1
    rw [hu.length_eq, List.drop_left] at h
    obtain ⟨v, rest, rfl, hv⟩ := beginsWith_iff.1 h.2
    obtain ⟨c, _, hc, hnil, rfl⟩ := List.forall₂_cons_left_iff.1 hv
    obtain rfl := List.forall₂_nil_left_iff.1 hnil
    exact ⟨u, [c], rest, rfl, ⟨head, hhead, hu⟩, List.cons_ne_nil c [], by simpa using hc⟩
  · rintro ⟨u, v, rest, rfl, ⟨head, hhead, hu⟩, hne, hv⟩
    refine ⟨head, hhead, ?_⟩
    rw [beginsWith_append, beginsWith_iff.2 ⟨u, _, rfl, hu⟩, hu.length_eq, List.drop_left, Bool.true_and]
    cases v with
    | nil => exact absurd rfl hne
    | cons c v => simp [beginsWith, hv c List.mem_cons_self]

theorem Spells.begins_iff (h : Spells p f) {before : Option Char} {cs : List Char} :
    f.Begins cs ↔ ∃ w rest, cs = w ++ rest ∧ p.Matches before w rest := by
  have hmatches := h before
  simp only [hmatches, f.begins_iff]
  constructor
  · rintro ⟨u, v, rest, rfl, hword⟩
    exact ⟨u ++ v, rest, (List.append_assoc ..).symm, u, v, rfl, hword⟩
  · rintro ⟨_, rest, rfl, u, v, rfl, hword⟩
    exact ⟨u, v, rest, List.append_assoc .., hword⟩

theorem Spells.occursIn_eq_false_iff (h : Spells p f) {text : String} :
    p.occursIn text = false ↔ f.Absent text.toList := by
  rw [← Bool.not_eq_true, Text.Pattern.occursIn_iff]
  constructor
  · rintro hnot ys ⟨l, hl⟩ hbegins
    obtain ⟨w, rest, rfl, hw⟩ := h.begins_iff.1 hbegins
    exact hnot ⟨l, w, rest, hl.symm, hw⟩
  · rintro habsent ⟨l, w, rest, htext, hw⟩
    exact habsent (w ++ rest) ⟨l, htext.symm⟩ (h.begins_iff.2 ⟨w, rest, rfl, hw⟩)

end

theorem pathless_iff {text : String} : Pathless text ↔
    temporary.Absent text.toList ∧ home.Absent text.toList ∧ drive.Absent text.toList := by
  simp only [Pathless, pathPatterns, List.forall_mem_cons, List.not_mem_nil, false_implies,
    implies_true, and_true, spells_homePath.occursIn_eq_false_iff,
    spells_temporaryPath.occursIn_eq_false_iff, spells_drivePath.occursIn_eq_false_iff]
  exact and_left_comm

/-! ## Texts whose paths are reduced -/

theorem Family.Absent.strip_eq {f : Family} {cs : List Char} (h : f.Absent cs) :
    f.strip cs = cs := by
  induction cs with
  | nil => exact strip_nil
  | cons c cs ih =>
    rw [strip_of_not_begins (h _ (List.suffix_refl _)),
      ih fun ys hys => h ys (hys.trans (List.suffix_cons c cs))]

theorem pathless_stripPaths (text : String) : Pathless (stripPaths text) := by
  rw [pathless_iff, stripPaths, String.toList_ofList]
  exact absent_stripChars text.toList

theorem stripPaths_eq_self_iff {text : String} : stripPaths text = text ↔ Pathless text := by
  constructor
  · intro h
    exact h ▸ pathless_stripPaths text
  · intro h
    obtain ⟨htemporary, hhome, hdrive⟩ := pathless_iff.1 h
    rw [stripPaths, stripChars, htemporary.strip_eq, hhome.strip_eq, hdrive.strip_eq,
      String.ofList_toList]

example : Pathless "/etc/hosts: no /home/ here" := by decide

/-- No pattern of a path occurs in a text whose paths are reduced, and texts in which none occurs are
left as they are, so a text is not reduced any further. Nor does a pattern occur in a text from which
secrets were taken out before. -/
theorem stripPaths_idempotent (text : String) :
    Pathless (stripPaths text) ∧ (stripPaths text = text ↔ Pathless text) ∧
      stripPaths (stripPaths text) = stripPaths text ∧ Pathless (scrub text) := by
  have hpathless : Pathless (stripPaths text) := pathless_stripPaths text
  refine ⟨hpathless, stripPaths_eq_self_iff, stripPaths_eq_self_iff.2 hpathless, ?_⟩
  exact pathless_stripPaths (redactSecrets text)

end Resilience.Scrub
