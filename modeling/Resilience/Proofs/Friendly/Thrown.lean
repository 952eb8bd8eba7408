import Resilience.Proofs.Friendly.Exposure
import Resilience.Proofs.Friendly.FileNames
import Resilience.Proofs.Friendly.Plain
import Resilience.Proofs.Friendly.Redaction
import Resilience.Proofs.Friendly.Retries
import Resilience.Proofs.Friendly.Words
import Resilience.Proofs.Json.Texts
import Resilience.Proofs.Text.Occurrences

/-!
# What is told of an object that was thrown

An object that is thrown is told by its compact JSON text. A number in digits that stands between quotes
there, as the value of a member, is in no message and in no suggestion, which tell of the object only the
name of a file (`Catalog.isSentence_render`, `Json.HoldsOnce.not_infix_message`). The technical text shows
it unless the search for secrets takes it out (`Json.HoldsOnce.infix_scrub_iff`), and the search does that
only for a key and a mark that stand in one key or text of the object (`Scrub.exists_mention_of_taken`):
in front of the colon of a member there is a quote, with which no key of a secret goes on.
-/

namespace Resilience

open Scrub (isSeparator)

variable {o : Json} {number : String}

/-! ## A number in the text of a value -/

/-- A number in digits is the value of a member, and it stands nowhere else in the text of the value. -/
structure Json.HoldsOnce (o : Json) (number : String) : Prop where
  member : ∃ key, HasMember o key (.str number)
  ne_nil : number.toList ≠ []
  digits : ∀ c ∈ number.toList, c.isDigit
  once : Text.occurrences number.toList o.compact.toList = 1

namespace Json.HoldsOnce

theorem not_mem {c : Char} (h : o.HoldsOnce number) (hc : c.isDigit = false) : c ∉ number.toList := by
  intro hmem
  simp [h.digits c hmem] at hc

/-- The number stands between quotes, and neither in front of them nor behind. -/
theorem exists_place (h : o.HoldsOnce number) : ∃ l r,
    o.compact.toList = l ++ '"' :: (number.toList ++ '"' :: r) ∧
      ¬ number.toList <:+: l ∧ ¬ number.toList <:+: r := by
  obtain ⟨key, hmember⟩ := h.member
  obtain ⟨before, after, hcompact⟩ := hmember.infix_compact
  have hnumber : escaped number = number.toList :=
    escaped_of_isAlphanum fun c hc => by simp [Char.isAlphanum, h.digits c hc]
  have hplace : o.compact.toList =
      before ++ ((quote key).toList ++ [':']) ++ '"' :: (number.toList ++ '"' :: after) := by
    rw [← hcompact, compact, String.toList_append, String.toList_append, toList_quote number, hnumber]
    simp
  refine ⟨_, after, hplace, ?_⟩
  have hquote := h.not_mem (c := '"') rfl
  have honce := h.once
  rw [hplace, Text.occurrences_append_cons h.ne_nil hquote, Text.occurrences_append_cons h.ne_nil hquote]
    at honce
  have hpos : 0 < Text.occurrences number.toList number.toList :=
    (Text.occurrences_pos_iff h.ne_nil).2 (List.infix_refl _)
  rw [← Text.occurrences_eq_zero_iff h.ne_nil, ← Text.occurrences_eq_zero_iff h.ne_nil]
  omega

end Json.HoldsOnce

/-! ## Names of files -/

namespace Scrub

variable {c : Char} {w cs : List Char}

theorem isKeyChar_of_isDigit (h : c.isDigit) : isKeyChar c :=
  isKeyChar_of_isAlphanum (by simp [Char.isAlphanum, h])

theorem isDelimiter_of_isDigit (h : c.isDigit) : isDelimiter c = false := by
  have hne (d : Char) (hd : d.isDigit = false) : c ≠ d := by
    rintro rfl
    simp [h] at hd
  have hblank := isBlank_of_isKeyChar (isKeyChar_of_isDigit h)
  simp [isDelimiter, hblank, hne]

theorem isSeparator_of_isDigit (h : c.isDigit) : isSeparator c = false := by
  rw [← Bool.not_eq_true]
  intro hsep
  simp only [isSeparator, Bool.or_eq_true, decide_eq_true_eq] at hsep
  rcases hsep with rfl | rfl <;> exact absurd h (by decide)

theorem isWordEnd_of_isDigit (h : c.isDigit) : isWordEnd c = false := by
  rw [← Bool.not_eq_true]
  intro hend
  simpa [isDelimiter_of_isDigit h] using isDelimiter_of_isWordEnd hend

theorem mem_names_of_baseName? {run name : List Char} (h : baseName? run = some name) :
    name ∈ names (trimTail run) := by
  rw [baseName?, Option.ite_none_right_eq_some] at h
  exact List.mem_of_getLast? h.2

/-- A word that the name of a file holds stands in the text that the name was found in. -/
theorem infix_of_baseName? {name : List Char} (hne : w ≠ [])
    (hw : ∀ c ∈ w, isWordEnd c = false ∧ isSeparator c = false)
    (hfound : (Text.runs isWordEnd cs).findSome? baseName? = some name) (h : w <:+: name) : w <:+: cs := by
  obtain ⟨run, hrun, hname⟩ := List.exists_of_findSome?_eq_some hfound
  have hmem := (List.mem_filter.1 (mem_names_of_baseName? hname)).1
  have htrimmed : w <:+: trimTail run :=
    (Text.infix_iff_runs hne fun c hc => (hw c hc).2).2 ⟨name, hmem, h⟩
  exact (Text.infix_iff_runs hne fun c hc => (hw c hc).1).2
    ⟨run, hrun, htrimmed.trans (isPrefix_trimTail run).isInfix⟩

theorem isSeparator_of_mem_fileName {text name : String} (h : firstFileName? text = some name) :
    ∀ c ∈ name.toList, isSeparator c = false := by
  obtain ⟨chars, hfound, rfl⟩ := Option.map_eq_some_iff.1 h
  obtain ⟨run, _, hname⟩ := List.exists_of_findSome?_eq_some hfound
  rw [String.toList_ofList]
  exact isSeparator_of_mem_names (mem_names_of_baseName? hname)

end Scrub

open Scrub

theorem Json.HoldsOnce.not_infix_fileName {name : String} (h : o.HoldsOnce number)
    (hname : firstFileName? o.compact = some name) : ¬ number.toList <:+: name.toList := by
  obtain ⟨l, r, hplace, hl, hr⟩ := h.exists_place
  obtain ⟨chars, hfound, rfl⟩ := Option.map_eq_some_iff.1 hname
  have hclass : ∀ c ∈ number.toList, isWordEnd c = false ∧ isSeparator c = false :=
    fun c hc => ⟨isWordEnd_of_isDigit (h.digits c hc), isSeparator_of_isDigit (h.digits c hc)⟩
  have hnone : (Text.runs isWordEnd number.toList).findSome? baseName? = none := by
    have hpathless : number.toList.any isSeparator = false :=
      List.any_eq_false.2 fun c hc => by simp [(hclass c hc).2]
    rw [Text.runs_eq_singleton fun c hc => (hclass c hc).1, List.findSome?_singleton, baseName?,
      hpathless]
    rfl
  rw [hplace, findSome?_runs_append_cons rfl, findSome?_runs_append_cons rfl, hnone, Option.none_or] at hfound
  rw [String.toList_ofList]
  rcases Option.or_eq_some_iff.1 hfound with hfound | ⟨_, hfound⟩
  · exact fun hin => hl (infix_of_baseName? h.ne_nil hclass hfound hin)
  · exact fun hin => hr (infix_of_baseName? h.ne_nil hclass hfound hin)

/-! ## What is told -/

namespace Catalog

/-- A text without digits and separators. -/
def IsWording (text : String) : Prop := ∀ c ∈ text.toList, c.isDigit = false ∧ isSeparator c = false

instance (text : String) : Decidable (IsWording text) :=
  List.decidableBAll _ text.toList

/-- A sentence of a template: wording alone, or around the name of the file between quotes. -/
inductive IsSentence (filename : Option String) : String → Prop
  | wording {text : String} (h : IsWording text) : IsSentence filename text
  | file {before name after : String} (hname : filename = some name) (hbefore : IsWording before)
      (hafter : IsWording after) : IsSentence filename (before ++ ("\"" ++ name ++ "\"") ++ after)

section

variable {c : Template.Context} {t : Template} {key text : String}

theorem isWording_redacted : IsWording redacted := by decide

theorem IsWording.append {a b : String} (ha : IsWording a) (hb : IsWording b) : IsWording (a ++ b) := by
  intro d hd
  rw [String.toList_append] at hd
  exact (List.mem_append.1 hd).elim (ha d) (hb d)

theorem isSentence_file {before after : String} (hbefore : IsWording before) (hafter : IsWording after)
    (atStart : Bool) : IsSentence c.filename (before ++ c.file atStart ++ after) := by
  cases hname : c.filename with
  | some name =>
    rw [Template.Context.file, hname]
    exact .file rfl hbefore hafter
  | none =>
    rw [Template.Context.file, hname]
    refine .wording ((hbefore.append ?_).append hafter)
    cases atStart <;> decide

/-- Without the detail that a template asks for, the sentence is another. -/
theorem render_withDetail {named : String → String} {otherwise : String}
    (h : c.details.get? key = none) : (withDetail key named otherwise).render c = some otherwise := by
  simp [withDetail, Template.Text.total, Template.Text.render, Template.Context.detail, h]

/-- Without details that a template asks for, it makes sentences. -/
theorem isSentence_render (ht : t = unknownTemplate ∨ (key, t) ∈ builtinTemplates)
    (hmost : c.maxRetries = none) (hdetails : ∀ k, k ≠ "thrownValue" → c.details.get? k = none) :
    (∃ message, t.message.render c = some message ∧ IsSentence c.filename message) ∧
    ∃ suggestion, t.suggestion.map (·.render c) = some (some suggestion) ∧ IsWording suggestion := by
  have hdetail (k : String) (hk : k ≠ "thrownValue") : c.detail k = none := by
    simp [Template.Context.detail, hdetails k hk]
  have hstart {after : String} (h : IsWording after) : IsSentence c.filename (c.file true ++ after) := by
    have hempty : IsWording "" := by decide
    simpa using isSentence_file hempty h true
  rcases ht with rfl | hmem
  · exact ⟨⟨_, rfl, .wording (by decide)⟩, _, rfl, by decide⟩
  · have hall : ∀ e ∈ builtinTemplates,
        (∃ message, e.2.message.render c = some message ∧ IsSentence c.filename message) ∧
        ∃ suggestion, e.2.suggestion.map (·.render c) = some (some suggestion) ∧ IsWording suggestion := by
      simp only [builtinTemplates, List.forall_mem_cons, List.not_mem_nil, false_implies, implies_true,
        and_true]
      refine ⟨?_, ?_, ?_, ?_, ?_, ?_, ?_, ?_, ?_, ?_, ?_, ?_, ?_, ?_, ?_, ?_, ?_, ?_, ?_⟩
      all_goals refine ⟨?_, ?_⟩
      -- A fixed text, a sentence for a detail, and one about a file.
      all_goals first
        | exact ⟨_, rfl, .wording (by decide +kernel)⟩
        | exact ⟨_, rfl, by decide +kernel⟩
        | exact ⟨_, render_withDetail (hdetails _ (by decide)), .wording (by decide +kernel)⟩
        | exact ⟨_, rfl, hstart (by decide +kernel)⟩
        | exact ⟨_, rfl, isSentence_file (by decide +kernel) (by decide +kernel) false⟩
        | skip
      · exact ⟨"Check your internet connection and try again.",
          by simp [Template.Text.total, Template.Text.render, hmost], by decide +kernel⟩
      · exact ⟨"The operation failed part-way through.",
          by simp [Template.Text.total, Template.Text.render, hdetail], .wording (by decide +kernel)⟩
    exact hall _ hmem

end

end Catalog

/-! ## Messages -/

namespace Json.HoldsOnce

theorem not_infix (h : o.HoldsOnce number) {cs : List Char} (hcs : ∀ c ∈ cs, c.isDigit = false) :
    ¬ number.toList <:+: cs := by
  intro hin
  obtain ⟨c, w, hnumber⟩ := List.exists_cons_of_ne_nil h.ne_nil
  have hc : c ∈ number.toList := by simp [hnumber]
  exact h.not_mem (hcs c (hin.subset hc)) hc

theorem isForeign (h : o.HoldsOnce number) : IsForeign number.toList where
  opening := h.not_mem rfl
  closing := h.not_mem rfl
  not_infix := h.not_infix fun c hc => (Catalog.isWording_redacted c hc).1

/-- What no wording and no name holds is not told. -/
theorem not_infix_message {filename : Option String} {text : String} (h : o.HoldsOnce number)
    (hfile : filename = firstFileName? o.compact) (hsentence : Catalog.IsSentence filename text)
    (limit : Nat) : ¬ number.toList <:+: (Scrub.message limit text).toList := by
  obtain ⟨hpathless, htext⟩ : (∀ c ∈ text.toList, isSeparator c = false) ∧
      ¬ number.toList <:+: text.toList := by
    cases hsentence with
    | wording htext => exact ⟨fun c hc => (htext c hc).2, h.not_infix fun c hc => (htext c hc).1⟩
    | @file before name after hname hbefore hafter =>
      rw [hname] at hfile
      have hparts : (before ++ ("\"" ++ name ++ "\"") ++ after).toList =
          before.toList ++ '"' :: (name.toList ++ '"' :: after.toList) := by simp
      have hquote := h.not_mem (c := '"') rfl
      rw [hparts, Text.infix_append_cons_iff hquote, Text.infix_append_cons_iff hquote]
      constructor
      · intro c hc
        simp only [List.mem_append, List.mem_cons] at hc
        rcases hc with hc | rfl | hc | rfl | hc
        · exact (hbefore c hc).2
        · rfl
        · exact isSeparator_of_mem_fileName hfile.symm c hc
        · rfl
        · exact (hafter c hc).2
      · rintro (hin | hin | hin)
        · exact h.not_infix (fun c hc => (hbefore c hc).1) hin
        · exact h.not_infix_fileName hfile.symm hin
        · exact h.not_infix (fun c hc => (hafter c hc).1) hin
  intro hin
  obtain ⟨w, last, hnumber⟩ := (List.eq_nil_or_concat' number.toList).resolve_left h.ne_nil
  have hlast : last ≠ '.' := by
    rintro rfl
    exact h.not_mem (c := '.') rfl (by simp [hnumber])
  rw [hnumber] at hin
  have hscrubbed := infix_of_infix_truncate hlast hin
  rw [← hnumber, toList_scrub, stripChars_eq_self] at hscrubbed
  · exact htext (infix_of_redactChars h.isForeign hscrubbed)
  · intro c hc
    rcases mem_redactChars hc with hc | hc
    · exact hpathless c hc
    · exact (Catalog.isWording_redacted c hc).2

end Json.HoldsOnce

/-! ## Technical texts -/

namespace Scrub

/-- A number is taken out of a text with the value of a secret. -/
def Hidden (text number : String) : Prop :=
  ∃ front kept lost rest, text.toList = front ++ (kept ++ lost ++ rest) ∧
    Taken none front kept lost rest ∧ number.toList <:+: lost

/-- In a redacted text, a number comes into a word when a path in it is reduced. -/
def Joined (text number : String) : Prop :=
  ∃ word ∈ words (redactSecrets text), ¬ number.toList <:+: word.toList ∧
    number.toList <:+: (stripPaths word).toList

/-- A word without delimiters stands in a text if it stands in a word of it. -/
theorem infix_iff_words {text : String} (hne : w ≠ []) (hw : ∀ c ∈ w, isDelimiter c = false) :
    w <:+: text.toList ↔ ∃ word ∈ words text, w <:+: word.toList := by
  rw [Text.infix_iff_runs hne hw]
  simp [words]

theorem infix_stripPaths_iff {text : String} (hne : w ≠ []) (hw : ∀ c ∈ w, isDelimiter c = false) :
    w <:+: (stripPaths text).toList ↔ ∃ word ∈ words text, w <:+: (stripPaths word).toList := by
  rw [infix_iff_words hne hw, words_stripPaths]
  simp

end Scrub

namespace Json.HoldsOnce

variable {label : String}

theorem isDelimiter_of_mem (h : o.HoldsOnce number) : ∀ c ∈ number.toList, isDelimiter c = false :=
  fun c hc => isDelimiter_of_isDigit (h.digits c hc)

theorem occurrences_labelled (h : o.HoldsOnce number) (hlabel : Catalog.IsWording label) :
    Text.occurrences number.toList (label ++ o.compact).toList = 1 := by
  obtain ⟨l, r, hplace, hl, hr⟩ := h.exists_place
  have hquote := h.not_mem (c := '"') rfl
  have hfront : ¬ number.toList <:+: label.toList ++ l := by
    obtain ⟨c, w, hnumber⟩ := List.exists_cons_of_ne_nil h.ne_nil
    have hc : c ∉ label.toList := fun hmem => by
      have hdigit := h.digits c (by simp [hnumber])
      simp [(hlabel c hmem).1] at hdigit
    rw [hnumber] at hl ⊢
    exact fun hin => hl (Text.infix_of_infix_append_left hin hc)
  have honce := h.once
  rw [hplace, Text.occurrences_append_cons h.ne_nil hquote, (Text.occurrences_eq_zero_iff h.ne_nil).2 hl]
    at honce
  rw [String.toList_append, hplace, ← List.append_assoc, Text.occurrences_append_cons h.ne_nil hquote,
    (Text.occurrences_eq_zero_iff h.ne_nil).2 hfront, honce]

/-- By its quotes the number is a word of its own, which no path goes beyond. -/
theorem infix_scrub_of_not_hidden (h : o.HoldsOnce number) (hhidden : ¬ Hidden (label ++ o.compact) number) :
    number.toList <:+: (scrub (label ++ o.compact)).toList := by
  obtain ⟨l, r, hplace, _⟩ := h.exists_place
  have hparts : (label ++ o.compact).toList = label.toList ++ l ++ '"' :: (number.toList ++ '"' :: r) := by
    rw [String.toList_append, hplace, List.append_assoc]
  have hkey : ∀ c ∈ number.toList, isKeyChar c := fun c hc => isKeyChar_of_isDigit (h.digits c hc)
  rcases quoted_shown_or_taken none (label.toList ++ l) r hkey with
    ⟨d, hd, front, rest, hshown⟩ | ⟨front, kept, lost, rest, hsplit, htaken, hlost⟩
  · have hdelimiter : isDelimiter d := by rcases hd with rfl | rfl <;> rfl
    have hself : stripChars number.toList = number.toList :=
      stripChars_eq_self fun c hc => isSeparator_of_isDigit (h.digits c hc)
    have hredacted : redactChars none (label ++ o.compact).toList =
        front ++ d :: (number.toList ++ '"' :: rest) := by
      rw [hparts, ← hshown]
      simp
    rw [toList_scrub, hredacted, stripChars_append_cons hdelimiter, stripChars_append_cons rfl, hself]
    exact ⟨stripChars front ++ [d], '"' :: stripChars rest, by simp⟩
  · exact absurd ⟨front, kept, lost, rest, hparts.trans hsplit, htaken, hlost⟩ hhidden

theorem infix_scrub_iff (h : o.HoldsOnce number) (hlabel : Catalog.IsWording label) :
    number.toList <:+: (scrub (label ++ o.compact)).toList ↔
      ¬ Hidden (label ++ o.compact) number ∨ Joined (label ++ o.compact) number := by
  constructor
  · intro hshown
    obtain ⟨word, hword, hin⟩ := (infix_stripPaths_iff h.ne_nil h.isDelimiter_of_mem).1 hshown
    by_cases hplain : number.toList <:+: word.toList
    · left
      rintro ⟨front, kept, lost, rest, hsplit, htaken, hlost⟩
      have hredacted := (infix_iff_words h.ne_nil h.isDelimiter_of_mem).2 ⟨word, hword, hplain⟩
      rw [redactSecrets, String.toList_ofList, hsplit] at hredacted
      have honce := Nat.le_of_eq (h.occurrences_labelled hlabel)
      rw [hsplit, List.append_assoc kept, ← List.append_assoc] at honce
      have hnot := Text.not_infix_of_occurrences h.ne_nil honce hlost
      exact (htaken.infix_or_infix h.isForeign hredacted).elim hnot.1 hnot.2
    · exact .inr ⟨word, hword, hplain, hin⟩
  · rintro (hhidden | ⟨word, hword, _, hin⟩)
    · exact h.infix_scrub_of_not_hidden hhidden
    · exact (infix_stripPaths_iff h.ne_nil h.isDelimiter_of_mem).2 ⟨word, hword, hin⟩

end Json.HoldsOnce

namespace Scrub

variable {key blanks after : List Char} {mark : Char}

/-- A key with its mark is a label. -/
theorem IsKept.isLabel (h : IsKept key blanks mark after) : Json.IsLabel (key ++ blanks ++ [mark]) where
  not_punctuation c hc hmem := by
    have hother : ['"', ',', '[', ']', '\x7b', '\x7d'].all fun c =>
        !isKeyChar c && !Text.isBlank c && decide (c ≠ '=' ∧ c ≠ ':') := by decide
    have hc := List.all_eq_true.1 hother c hc
    rw [Bool.and_eq_true, Bool.and_eq_true, Bool.not_eq_true', Bool.not_eq_true', decide_eq_true_iff] at hc
    obtain ⟨⟨hkey, hblank⟩, hne⟩ := hc
    rcases List.mem_append.1 hmem with hmem | hmem
    · rcases List.mem_append.1 hmem with hmem | hmem
      · simp [h.key c hmem] at hkey
      · simp [h.blanks c hmem] at hblank
    · obtain rfl := List.mem_singleton.1 hmem
      exact h.mark.elim hne.1 hne.2
  head := by
    obtain ⟨c, cs, hkey⟩ := List.exists_cons_of_ne_nil h.key_ne_nil
    exact ⟨c, by simp [hkey], (ne_marks_of_isKeyChar (h.key c (by simp [hkey]))).2⟩
  last := ⟨mark, by simp, h.mark⟩

variable {members : List (String × Json)} {label : String}

/-- A secret in a text of an object has its key and its mark in one key or text of the object. -/
theorem exists_mention_of_taken {front kept lost rest : List Char} (hlabel : Markless label)
    (hsplit : (label ++ (Json.obj members).compact).toList = front ++ (kept ++ lost ++ rest))
    (htaken : Taken none front kept lost rest) :
    ∃ s, (Json.obj members).Mentions s ∧ ∃ key blanks mark after, IsKept key blanks mark after ∧
      key ++ blanks ++ [mark] <:+: Json.escaped s := by
  obtain ⟨key, blanks, mark, after, hkept, rfl⟩ := htaken.isSecret.kept
  have hbrace : '\x7b' ∉ key ++ blanks ++ [mark] := hkept.isLabel.not_punctuation _ (by decide)
  have hin : key ++ blanks ++ [mark] <:+: (label ++ (Json.obj members).compact).toList := by
    rw [hsplit]
    exact ⟨front, after ++ lost ++ rest, by simp⟩
  rw [String.toList_append, Json.toList_compact_obj, Text.infix_append_cons_iff hbrace] at hin
  have hcompact : key ++ blanks ++ [mark] <:+: (Json.obj members).compact.toList := by
    rw [Json.toList_compact_obj]
    exact (hin.resolve_left (hkept.isLabel.not_infix hlabel)).trans (List.suffix_cons _ _).isInfix
  obtain ⟨s, hs, hin⟩ := Json.mentions_of_label hkept.isLabel _ hcompact
  exact ⟨s, hs, key, blanks, mark, after, hkept, hin⟩

/-- Nothing of an object is taken out if no key and no text of it has a mark. -/
theorem not_taken_of_markless {front kept lost rest : List Char} (hlabel : Markless label)
    (hmarkless : ∀ s, (Json.obj members).Mentions s → Markless s)
    (hsplit : (label ++ (Json.obj members).compact).toList = front ++ (kept ++ lost ++ rest)) :
    ¬ Taken none front kept lost rest := by
  intro htaken
  obtain ⟨s, hs, key, blanks, mark, _, hkept, hin⟩ := exists_mention_of_taken hlabel hsplit htaken
  have hne := Json.markless_escaped (hmarkless s hs) mark (hin.subset (by simp))
  exact hkept.mark.elim hne.1 hne.2

theorem scrub_of_markless (hlabel : Markless label)
    (hmarkless : ∀ s, (Json.obj members).Mentions s → Markless s)
    (hpathless : (label ++ (Json.obj members).compact).toList.all (!isSeparator ·)) :
    scrub (label ++ (Json.obj members).compact) = label ++ (Json.obj members).compact := by
  simp only [List.all_eq_true, Bool.not_eq_true'] at hpathless
  rcases redactChars_eq_self_or_taken none (label ++ (Json.obj members).compact).toList with
    hself | ⟨front, kept, lost, rest, hsplit, htaken⟩
  · rw [← String.toList_inj, toList_scrub, hself, stripChars_eq_self hpathless]
  · exact absurd htaken (not_taken_of_markless hlabel hmarkless hsplit)

end Scrub

namespace Translator

variable {members : List (String × Json)}

theorem filename_thrown (now : Timestamp) (members : List (String × Json)) :
    (context ((Raw.value (.obj members)).toFailure now) {}).filename =
      firstFileName? (Json.obj members).compact := by
  rw [filename_eq, placeTexts, Failure.chain_eq]
  exact List.findSome?_singleton

theorem get?_details_thrown (now : Timestamp) (members : List (String × Json)) {key : String}
    (hkey : key ≠ "thrownValue") :
    (context ((Raw.value (.obj members)).toFailure now) {}).details.get? key = none := by
  have hentry : (context ((Raw.value (.obj members)).toFailure now) {}).details.get? key =
      if key = "thrownValue" then some (.obj members) else none := Dict.get?_insert ..
  rw [hentry, if_neg hkey]

theorem technical_thrown (now : Timestamp) {members : List (String × Json)}
    (hlength : (scrub ("[NON_ERROR_VALUE] " ++ (Json.obj members).compact)).length ≤
      technicalLimit defaultLimit) :
    (({} : Translator).translate ((Raw.value (.obj members)).toFailure now) {}).technical =
      scrub ("[NON_ERROR_VALUE] " ++ (Json.obj members).compact) :=
  if_pos (String.length_toList.trans_le hlength)

/-- What the default translator tells of an object that was thrown, with a number in digits as the value of
a member. Message and suggestion do not show the number. The technical text, if it is not cut, shows it
unless it is taken out with the value of a secret, or if the reduction of a path joins it together. It is
taken out only for a key and a mark that stand in one key or text of the object. The colon behind the key
of its own member is no such mark, whatever the key is. -/
theorem translate_thrown (now : Timestamp) (h : (Json.obj members).HoldsOnce number)
    (hlength : (scrub ("[NON_ERROR_VALUE] " ++ (Json.obj members).compact)).length ≤
      technicalLimit defaultLimit) :
    let text := "[NON_ERROR_VALUE] " ++ (Json.obj members).compact
    let told := ({} : Translator).translate ((Raw.value (.obj members)).toFailure now) {}
    ¬ number.toList <:+: told.message.toList ∧
    (∀ suggestion ∈ told.suggestion, ¬ number.toList <:+: suggestion.toList) ∧
    (number.toList <:+: told.technical.toList ↔ ¬ Hidden text number ∨ Joined text number) ∧
    (Hidden text number → ∃ s, (Json.obj members).Mentions s ∧ ∃ key blanks mark after,
      IsKept key blanks mark after ∧ key ++ blanks ++ [mark] <:+: Json.escaped s) := by
  intro text told
  obtain ⟨_, template, htemplate, _, hmessage, hsuggestion⟩ :=
    exists_template ((Raw.value (.obj members)).toFailure now) {}
  obtain ⟨⟨message, hrendered, hsentence⟩, suggestion, hsuggested, hwording⟩ :=
    Catalog.isSentence_render htemplate (c := context ((Raw.value (.obj members)).toFailure now) {}) rfl
      fun key hkey => get?_details_thrown now members hkey
  have hfile := filename_thrown now members
  have hrender : render template (context ((Raw.value (.obj members)).toFailure now) {}) =
      (message, some suggestion) := by
    rw [render, hrendered, hsuggested]
  rw [hrender] at hmessage hsuggestion
  refine ⟨?_, ?_, ?_, ?_⟩
  · rw [hmessage]
    exact h.not_infix_message hfile hsentence _
  · intro suggestion' hmem
    rw [hsuggestion] at hmem
    cases hmem
    exact h.not_infix_message hfile (.wording hwording) _
  · rw [technical_thrown now hlength]
    exact h.infix_scrub_iff (by decide)
  · rintro ⟨front, kept, lost, rest, hsplit, htaken, _⟩
    exact exists_mention_of_taken (by decide) hsplit htaken

/-- Someone's name and a date for a password. -/
def account : List (String × Json) := [("password", .str "20240101"), ("user", .str "ann")]

theorem account_holdsOnce : (Json.obj account).HoldsOnce "20240101" where
  member := ⟨"password", .own (by simp [account])⟩
  ne_nil := by decide
  digits := List.all_eq_true.1 (by decide)
  once := by decide

theorem account_markless : ∀ s, (Json.obj account).Mentions s → Markless s := by
  intro s hs
  cases hs with
  | key h =>
    simp only [account, List.mem_cons, Prod.mk.injEq, List.not_mem_nil, or_false] at h
    rcases h with ⟨rfl, _⟩ | ⟨rfl, _⟩ <;> decide
  | member hv h =>
    simp only [account, List.mem_cons, Prod.mk.injEq, List.not_mem_nil, or_false] at hv
    rcases hv with ⟨rfl, rfl⟩ | ⟨rfl, rfl⟩ <;> cases h <;> decide

theorem scrub_account : scrub ("[NON_ERROR_VALUE] " ++ (Json.obj account).compact) =
    "[NON_ERROR_VALUE] \x7b\"password\":\"20240101\",\"user\":\"ann\"\x7d" :=
  scrub_of_markless (by decide) account_markless (by decide)

theorem length_scrub_account :
    (scrub ("[NON_ERROR_VALUE] " ++ (Json.obj account).compact)).length ≤ technicalLimit defaultLimit := by
  rw [scrub_account]
  decide

theorem translate_thrown_account :
    (Json.obj account).HoldsOnce "20240101" ∧
      (scrub ("[NON_ERROR_VALUE] " ++ (Json.obj account).compact)).length ≤ technicalLimit defaultLimit ∧
      "20240101".toList <:+: (({} : Translator).translate
        ((Raw.value (.obj account)).toFailure default) {}).technical.toList := by
  refine ⟨account_holdsOnce, length_scrub_account, ?_⟩
  refine (translate_thrown default account_holdsOnce length_scrub_account).2.2.1.2 (.inl ?_)
  rintro ⟨front, kept, lost, rest, hsplit, htaken, _⟩
  exact not_taken_of_markless (by decide) account_markless hsplit htaken

/-- The key of the member names a secret, and its value is told. -/
theorem password_told :
    namesSecret "password".toList ∧ ("password", Json.str "20240101") ∈ account ∧
      (({} : Translator).translate ((Raw.value (.obj account)).toFailure default) {}).technical =
        "[NON_ERROR_VALUE] \x7b\"password\":\"20240101\",\"user\":\"ann\"\x7d" ∧
      "20240101".toList <:+: (({} : Translator).translate
        ((Raw.value (.obj account)).toFailure default) {}).technical.toList := by
  have htold := (technical_thrown default length_scrub_account).trans scrub_account
  refine ⟨by decide, by simp [account], htold, ?_⟩
  rw [htold]
  decide

end Translator

end Resilience
