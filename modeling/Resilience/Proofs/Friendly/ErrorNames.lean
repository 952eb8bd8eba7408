import Resilience.Proofs.Friendly.Classification
import Resilience.Proofs.Text.Classes
import Resilience.Proofs.Text.Pattern

/-!
# Names of errors in messages

A message in which the name of an error stands as a word of its own gets the key of a rule that names it
or of one before it (`Rule.classify_errorName`). So general words in the message do not matter, as the
rules for these come after all rules that name an error.
-/

namespace Resilience

/-! ## Words of their own -/

namespace Text

variable {w : String} {u : List Char}

/-- Whether a word stands in a text, in letters of either case, with no word character directly before or
after it. -/
def StandsAlone (w text : String) : Prop :=
  ∃ l u r, text.toList = l ++ (u ++ r) ∧ u.map Char.toLower = w.toList ∧
    (∀ c ∈ l.getLast?, isWord c = false) ∧ ∀ c ∈ r.head?, isWord c = false

namespace Pattern

variable {p q : Pattern} {before : Option Char} {rest : List Char}

theorem isBoundary_of_isWord {a b : Option Char} (ha : ∀ c ∈ a, isWord c = false)
    (hb : ∃ c ∈ b, isWord c) : isBoundary a b ∧ isBoundary b a := by
  obtain ⟨c, rfl, hc⟩ := hb
  cases a with
  | none => simp [isBoundary, hc]
  | some d => simp [isBoundary, hc, ha d rfl]

theorem matches_letters (hu : u.map Char.toLower = w.toList) : (letters w).Matches before u rest := by
  rw [matches_letters_iff, ← hu, List.forall₂_map_left_iff, List.forall₂_same]
  intro c _
  simp [sameLetter]

theorem matches_word (hne : w.toList ≠ []) (hw : ∀ c ∈ w.toList, c.isLower)
    (hu : u.map Char.toLower = w.toList) (hbefore : ∀ c ∈ before, isWord c = false)
    (hrest : ∀ c ∈ rest.head?, isWord c = false) : (word w).Matches before u rest := by
  have hword : ∀ c ∈ u, isWord c := fun c hc =>
    isWord_of_isAlpha (isAlpha_of_isLower_toLower (hw _ (hu ▸ List.mem_map_of_mem hc)))
  have hu' : u ≠ [] := by
    rintro rfl
    exact hne hu.symm
  have hhead : ∃ c ∈ (u ++ rest).head?, isWord c :=
    ⟨u.head hu', by simp [List.head?_append, List.head?_eq_some_head hu'], hword _ (List.head_mem hu')⟩
  have hlast : ∃ c ∈ u.getLast?.or before, isWord c :=
    ⟨u.getLast hu', by simp [List.getLast?_eq_some_getLast hu'], hword _ (List.getLast_mem hu')⟩
  refine matches_append_iff.2 ⟨u, [], (List.append_nil u).symm, matches_append_iff.2 ⟨[], u, rfl, ?_, ?_⟩, ?_⟩
  · exact .boundary (isBoundary_of_isWord hbefore hhead).1
  · exact matches_letters hu
  · exact .boundary (isBoundary_of_isWord hrest hlast).2

/-- The patterns between which a pattern is a choice. -/
def alternatives : Pattern → List Pattern
  | either p q => alternatives p ++ alternatives q
  | p => [p]

theorem Matches.of_mem_alternatives (hq : q ∈ p.alternatives) (h : q.Matches before u rest) :
    p.Matches before u rest := by
  induction p with
  | either p p' ihp ihp' =>
    rcases List.mem_append.1 hq with hq | hq
    · exact .first (ihp hq)
    · exact .second (ihp' hq)
  | _ => rwa [← List.mem_singleton.1 hq]

end Pattern

end Text

namespace Rule

open Text.Pattern

variable {rules : List Rule} {rule : Rule} {w message : String} {i : Nat}

/-! ## Rules before others -/

theorem classify_of_fits (hrule : rules[i]? = some rule) (h : rule.fits message) :
    ∃ j ≤ i, ∃ first, rules[j]? = some first ∧ first.fits message = true ∧
      classify rules message = some first.key := by
  cases hfind : rules.find? (·.fits message) with
  | none => simpa [h] using List.find?_eq_none.1 hfind rule (List.mem_of_getElem? hrule)
  | some first =>
    obtain ⟨hfits, j, hj, hfirst, hbefore⟩ := List.find?_eq_some_iff_getElem.1 hfind
    refine ⟨j, Nat.le_of_not_lt fun hlt => ?_, first, ?_, hfits, ?_⟩
    · obtain ⟨hi, hrule⟩ := List.getElem?_eq_some_iff.1 hrule
      simpa [hrule, h] using hbefore i hlt
    · rw [List.getElem?_eq_getElem hj, hfirst]
    · rw [classify, hfind, Option.map_some]

/-- Whether a rule is for the messages in which one of some patterns occurs, among these the word as a word
of its own. -/
def Names (rule : Rule) (w : String) : Prop :=
  ∃ p : Text.Pattern, rule.fits = p.occursIn ∧ word w ∈ p.alternatives

def errorNames : List String :=
  ["econnrefused", "econnreset", "etimedout", "enotfound", "eaddrinuse", "enoent", "eacces", "eperm",
    "eexist", "enospc"]

theorem all_isLower_of_errorNames :
    ∀ w ∈ errorNames, w.toList ≠ [] ∧ w.toList.all Char.isLower := by
  decide

theorem Names.fits (h : rule.Names w) (hw : w ∈ errorNames) (hm : Text.StandsAlone w message) :
    rule.fits message := by
  obtain ⟨p, hfits, hword⟩ := h
  obtain ⟨l, u, r, htext, hu, hl, hr⟩ := hm
  obtain ⟨hne, hlower⟩ := all_isLower_of_errorNames w hw
  rw [hfits, occursIn_iff]
  exact ⟨l, u, r, htext, .of_mem_alternatives hword (matches_word hne (List.all_eq_true.1 hlower) hu hl hr)⟩

theorem names_errorNames {w : String} (hw : w ∈ errorNames) :
    ∃ i < 9, ∃ rule, builtin[i]? = some rule ∧ rule.Names w := by
  have hnames (i : Nat) (hi : i < 9) (p : Text.Pattern) (key description : String)
      (hrule : builtin[i]? = some (.ofPattern p key description)) (hp : word w ∈ p.alternatives) :
      ∃ i < 9, ∃ rule, builtin[i]? = some rule ∧ rule.Names w :=
    ⟨i, hi, _, hrule, p, rfl, hp⟩
  simp only [errorNames, List.mem_cons, List.not_mem_nil, or_false] at hw
  rcases hw with rfl | rfl | rfl | rfl | rfl | rfl | rfl | rfl | rfl | rfl
  · exact hnames 0 (by decide) _ _ _ rfl (.head _)
  · exact hnames 1 (by decide) _ _ _ rfl (.head _)
  · exact hnames 2 (by decide) _ _ _ rfl (.head _)
  · exact hnames 3 (by decide) _ _ _ rfl (.head _)
  · exact hnames 4 (by decide) _ _ _ rfl (.head _)
  · exact hnames 5 (by decide) _ _ _ rfl (.head _)
  · exact hnames 6 (by decide) _ _ _ rfl (.head _)
  · exact hnames 6 (by decide) _ _ _ rfl (.tail _ (.head _))
  · exact hnames 7 (by decide) _ _ _ rfl (.head _)
  · exact hnames 8 (by decide) _ _ _ rfl (.head _)

/-- The rules that name an error come first, and no rule after them has a key of theirs. -/
theorem key_not_mem_drop {i : Nat} (hi : i < 9) (hrule : builtin[i]? = some rule) :
    rule.key ∉ (builtin.drop 9).map (·.key) := by
  have hall : ∀ key ∈ (builtin.take 9).map (·.key), key ∉ (builtin.drop 9).map (·.key) := by decide
  have hmem : rule ∈ builtin.take 9 := List.mem_of_getElem? (by rwa [List.getElem?_take_of_lt hi])
  exact hall rule.key (List.mem_map_of_mem hmem)

/-- A message in which the name of an error stands as a word of its own has the key of a rule that fits it
and that names the error or stands before a rule that does; some rule names it. It never has the key of a rule for the domain or for
networks in general, and `ECONNREFUSED` in it is decisive. -/
theorem classify_errorName (hw : w ∈ errorNames) (h : Text.StandsAlone w message) :
    (∀ (i : Nat) (rule : Rule), builtin[i]? = some rule → rule.Names w →
      ∃ j ≤ i, ∃ first : Rule, builtin[j]? = some first ∧ first.fits message = true ∧
        classify builtin message = some first.key) ∧
    (∃ i < 9, ∃ rule : Rule, builtin[i]? = some rule ∧ rule.Names w) ∧
    (∀ rule ∈ builtin.drop 9, classify builtin message ≠ some rule.key) ∧
    (w = "econnrefused" → classify builtin message = some "ECONNREFUSED") := by
  have hbefore (i : Nat) (rule : Rule) (hrule : builtin[i]? = some rule) (hnames : rule.Names w) :=
    classify_of_fits hrule (hnames.fits hw h)
  obtain ⟨i, hi, rule, hrule, hnames⟩ := names_errorNames hw
  refine ⟨hbefore, ⟨i, hi, rule, hrule, hnames⟩, fun other hother heq => ?_, ?_⟩
  · obtain ⟨j, hj, first, hfirst, _, hkey⟩ := hbefore i rule hrule hnames
    obtain hsame : first.key = other.key := Option.some.inj (hkey.symm.trans heq)
    refine key_not_mem_drop (by omega) hfirst ?_
    exact hsame ▸ List.mem_map_of_mem hother
  · rintro rfl
    obtain ⟨j, hj, first, hfirst, _, hkey⟩ := hbefore 0 _ rfl ⟨_, rfl, .head _⟩
    obtain rfl : j = 0 := Nat.le_zero.1 hj
    cases hfirst
    exact hkey

/-- Neither the word before the name nor the number behind it matters. -/
theorem classify_errorName_refused :
    "econnrefused" ∈ errorNames ∧
      Text.StandsAlone "econnrefused" "Connection failed: EConnRefused 127.0.0.1" ∧
      classify builtin "Connection failed: EConnRefused 127.0.0.1" = some "ECONNREFUSED" := by
  have hmem : "econnrefused" ∈ errorNames := .head _
  have halone : Text.StandsAlone "econnrefused" "Connection failed: EConnRefused 127.0.0.1" :=
    ⟨"Connection failed: ".toList, "EConnRefused".toList, " 127.0.0.1".toList, by decide, by decide,
      by simp; decide, by simp; decide⟩
  obtain ⟨_, _, _, hkey⟩ := classify_errorName hmem halone
  exact ⟨hmem, halone, hkey rfl⟩

end Rule

end Resilience
