import Resilience.Proofs.Friendly.Paths
import Resilience.Proofs.Text.Classes
import Resilience.Proofs.Text.Infix

/-!
# Secrets in texts

A secret is a key that names it, a mark and a value (`secretAt_eq_some`). A key with its mark and a value
behind it is a secret (`secretAt_of_isKept`).
-/

namespace Resilience.Scrub

variable {before : Option Char} {mark c : Char}
  {cs w key blanks after value kept lost rest r : List Char}

theorem isKeyChar_of_isBlank (h : Text.isBlank c) : isKeyChar c = false := by
  have hne : c ≠ '-' := by
    rintro rfl
    exact absurd h (by decide)
  simp [isKeyChar, Text.isWord_of_isBlank h, hne]

theorem isKeyChar_of_mark (h : mark = '=' ∨ mark = ':') : isKeyChar mark = false := by
  rcases h with rfl | rfl <;> decide

theorem ne_marks_of_isKeyChar (h : isKeyChar c) : c ≠ '=' ∧ c ≠ ':' := by
  constructor <;> rintro rfl <;> exact absurd h (by decide)

theorem ne_quotes_of_isKeyChar (h : isKeyChar c) : c ≠ '"' ∧ c ≠ '\x27' := by
  constructor <;> rintro rfl <;> exact absurd h (by decide)

theorem isBlank_of_mark (h : mark = '=' ∨ mark = ':') : Text.isBlank mark = false := by
  rcases h with rfl | rfl <;> decide

theorem isKeyChar_of_isAlphanum (h : c.isAlphanum) : isKeyChar c := by
  have hlt : c.toNat < 128 := by
    rw [Text.isAlphanum_iff] at h
    omega
  simp [isKeyChar, Text.isWord, hlt, h]

theorem isBlank_of_isKeyChar (h : isKeyChar c) : Text.isBlank c = false := by
  rw [← Bool.not_eq_true]
  intro hblank
  simp [isKeyChar_of_isBlank hblank] at h

theorem isValueChar_of_isKeyChar (h : isKeyChar c) : isValueChar c := by
  have hne (d : Char) (hd : isKeyChar d = false) : c ≠ d := by
    rintro rfl
    simp [h] at hd
  simp [isValueChar, isBlank_of_isKeyChar h, hne '&' (by decide), hne ',' (by decide),
    hne ';' (by decide)]

/-! ## The parts of a secret -/

/-- A key that names a secret, and its mark. -/
structure IsKept (key blanks : List Char) (mark : Char) (after : List Char) : Prop where
  names : namesSecret key
  key : ∀ c ∈ key, isKeyChar c
  blanks : ∀ c ∈ blanks, Text.isBlank c
  mark : mark = '=' ∨ mark = ':'
  after : ∀ c ∈ after, Text.isBlank c

/-- What can stand between a mark and a value: the word for a bearer. -/
def IsLead (lead : List Char) : Prop :=
  lead = [] ∨ ∃ word blanks, lead = word ++ blanks ∧
    List.Forall₂ (fun lower c => Text.sameLetter lower c) "bearer".toList word ∧ blanks ≠ [] ∧
    ∀ c ∈ blanks, Text.isBlank c

/-- A value in front of a text. -/
inductive IsValue : List Char → List Char → Prop
  | plain {value rest : List Char} (hne : value ≠ []) (hvalue : ∀ c ∈ value, isValueChar c)
      (hrest : ∀ c ∈ rest.head?, isValueChar c = false) : IsValue value rest
  | quoted {rest : List Char} (quote : Char) (body : List Char) (hquote : quote = '"' ∨ quote = '\x27')
      (hbody : quote ∉ body) : IsValue (quote :: body ++ [quote]) rest

structure IsSecret (kept lost rest : List Char) : Prop where
  kept : ∃ key blanks mark after, IsKept key blanks mark after ∧ kept = key ++ blanks ++ mark :: after
  lost : ∃ lead value, IsLead lead ∧ IsValue value rest ∧ lost = lead ++ value

theorem exists_append_of_quoted {quote : Char} (h : quoted quote cs = some value) :
    ∃ body rest, cs = body ++ quote :: rest ∧ value = quote :: body ++ [quote] ∧ quote ∉ body := by
  obtain ⟨body, rest, rfl, hbody, hnot, hrest⟩ := Text.exists_takeWhile_eq (· ≠ quote) cs
  rw [quoted, hbody] at h
  split at h
  · next hlt =>
    cases h
    cases rest with
    | nil => simp at hlt
    | cons d rest =>
      obtain rfl : d = quote := by simpa using hrest
      exact ⟨body, rest, rfl, rfl, fun hmem => by simpa using hnot _ hmem⟩
  · cases h

theorem exists_append_of_valueAt (h : valueAt cs = some value) :
    ∃ rest, cs = value ++ rest ∧ IsValue value rest := by
  cases cs with
  | nil => cases h
  | cons c cs =>
    obtain ⟨run, rest, hsplit, hrun, hvalue, hrest⟩ := Text.exists_takeWhile_eq isValueChar (c :: cs)
    have hplain (h : (if run.isEmpty then none else some run) = some value) :
        ∃ rest, c :: cs = value ++ rest ∧ IsValue value rest := by
      split at h
      · cases h
      · next hne =>
        cases h
        exact ⟨rest, hsplit, .plain (by simpa using hne) hvalue hrest⟩
    rw [valueAt, hrun] at h
    dsimp only at h
    split at h
    · next hquote =>
      rcases Option.or_eq_some_iff.1 h with h | ⟨_, h⟩
      · obtain ⟨body, rest, rfl, rfl, hbody⟩ := exists_append_of_quoted h
        exact ⟨rest, by simp, .quoted c body (by simpa using hquote) hbody⟩
      · exact hplain h
    · exact hplain h

theorem isBlank_of_mem_letters {letters word : List Char} (hletters : letters.all (!isDelimiter ·))
    (h : List.Forall₂ (fun lower c => Text.sameLetter lower c) letters word) :
    ∀ c ∈ word, Text.isBlank c = false := by
  induction h with
  | nil => simp
  | @cons lower c letters word hsame _ ih =>
    rw [List.all_cons, Bool.and_eq_true, Bool.not_eq_true'] at hletters
    have hc : isDelimiter c = false := by
      rcases eq_or_isDriveLetter_of_sameLetter hsame with rfl | ⟨hletter, _⟩
      · exact hletters.1
      · exact isDelimiter_of_isDriveLetter hletter
    intro d hd
    rcases List.mem_cons.1 hd with rfl | hd
    · rw [isDelimiter, Bool.or_eq_false_iff] at hc
      exact hc.1
    · exact ih hletters.2 d hd

theorem exists_append_of_credentialAt (h : credentialAt cs = some lost) :
    ∃ lead value rest, cs = lost ++ rest ∧ IsLead lead ∧ IsValue value rest ∧ lost = lead ++ value := by
  rw [credentialAt] at h
  rcases Option.or_eq_some_iff.1 h with h | ⟨_, h⟩
  · split at h
    · next hbearer =>
      obtain ⟨word, cs, rfl, hword⟩ := beginsWith_iff.1 hbearer
      rw [anyCase, List.forall₂_map_left_iff] at hword
      have hlength : 6 = word.length := hword.length_eq
      obtain ⟨blanks, cs, rfl, hrun, hblanks, _⟩ := Text.exists_takeWhile_eq Text.isBlank cs
      dsimp only at h
      rw [hlength, List.drop_left, hrun, List.drop_length_add_append, List.take_length_add_append,
        List.drop_left, List.take_left] at h
      split at h
      · cases h
      · next hne =>
        obtain ⟨value, hat, rfl⟩ := Option.map_eq_some_iff.1 h
        obtain ⟨rest, rfl, hvalue⟩ := exists_append_of_valueAt hat
        exact ⟨word ++ blanks, value, rest, by simp,
          .inr ⟨word, blanks, rfl, hword, by simpa using hne, hblanks⟩, hvalue, rfl⟩
    · cases h
  · obtain ⟨rest, hcs, hvalue⟩ := exists_append_of_valueAt h
    exact ⟨[], lost, rest, hcs, .inl rfl, hvalue, rfl⟩

theorem not_namesSecret_nil : ¬ namesSecret [] := by
  simp [namesSecret]

theorem IsKept.key_ne_nil (h : IsKept key blanks mark after) : key ≠ [] := by
  rintro rfl
  exact not_namesSecret_nil h.names

/-- With a key, its mark and a value behind it, there is a secret. -/
theorem secretAt_of_isKept (h : IsKept key blanks mark after)
    (hbefore : Text.isBoundary before key.head?) (hr : ∀ c ∈ r.head?, Text.isBlank c = false) :
    secretAt before (key ++ blanks ++ mark :: after ++ r) =
      (credentialAt r).map (key ++ blanks ++ mark :: after, ·) := by
  have hmark := isKeyChar_of_mark h.mark
  have hkey : (key ++ (blanks ++ mark :: (after ++ r))).takeWhile isKeyChar = key := by
    refine Text.takeWhile_append_eq_left h.key fun c hc => ?_
    cases blanks with
    | nil => exact (Option.mem_some.1 hc) ▸ hmark
    | cons d blanks =>
      obtain rfl : d = c := Option.mem_some.1 hc
      exact isKeyChar_of_isBlank (h.blanks _ List.mem_cons_self)
  have hblanks : (blanks ++ mark :: (after ++ r)).takeWhile Text.isBlank = blanks :=
    Text.takeWhile_append_eq_left h.blanks fun c hc => Option.mem_some.1 hc ▸ isBlank_of_mark h.mark
  have hafter : (after ++ r).takeWhile Text.isBlank = after := Text.takeWhile_append_eq_left h.after hr
  have hhead : (key ++ (blanks ++ mark :: (after ++ r))).head? = key.head? := by
    cases key with
    | nil => exact absurd rfl h.key_ne_nil
    | cons c key => rfl
  have hsplit : key ++ blanks ++ mark :: after ++ r = key ++ (blanks ++ mark :: (after ++ r)) := by
    simp
  rw [hsplit, secretAt, hhead, if_pos hbefore, hkey]
  dsimp only
  rw [if_pos h.names, List.drop_left, hblanks, List.drop_left]
  dsimp only
  rw [if_pos (by simpa using h.mark), hafter, List.drop_left]

theorem secretAt_eq_some (h : secretAt before cs = some (kept, lost)) :
    ∃ rest, cs = kept ++ lost ++ rest ∧ IsSecret kept lost rest := by
  rw [secretAt] at h
  split at h
  · dsimp only at h
    obtain ⟨key, cs, rfl, hrun, hkey, _⟩ := Text.exists_takeWhile_eq isKeyChar cs
    rw [hrun, List.drop_left] at h
    split at h
    · next hnames =>
      obtain ⟨blanks, cs, rfl, hrun, hblanks, _⟩ := Text.exists_takeWhile_eq Text.isBlank cs
      rw [hrun, List.drop_left] at h
      cases cs with
      | nil => cases h
      | cons mark cs =>
        dsimp only at h
        split at h
        · next hmark =>
          obtain ⟨after, cs, rfl, hrun, hafter, _⟩ := Text.exists_takeWhile_eq Text.isBlank cs
          rw [hrun, List.drop_left] at h
          obtain ⟨lost', hlost, hpair⟩ := Option.map_eq_some_iff.1 h
          cases hpair
          obtain ⟨lead, value, rest, rfl, hlead, hvalue, hsplit⟩ := exists_append_of_credentialAt hlost
          exact ⟨rest, by simp, ⟨key, blanks, mark, after,
            ⟨hnames, hkey, hblanks, by simpa using hmark, hafter⟩, rfl⟩, lead, value, hlead, hvalue, hsplit⟩
        · cases h
    · cases h
  · cases h

namespace IsSecret

theorem lost_ne_nil (h : IsSecret kept lost rest) : lost ≠ [] := by
  obtain ⟨lead, value, _, hvalue, rfl⟩ := h.lost
  cases hvalue with
  | plain hne => simp [hne]
  | quoted quote body => simp

theorem of_mem_kept (h : IsSecret kept lost rest) (hc : c ∈ kept) :
    isKeyChar c ∨ Text.isBlank c ∨ c = '=' ∨ c = ':' := by
  obtain ⟨key, blanks, mark, after, hkept, rfl⟩ := h.kept
  rcases List.mem_append.1 hc with hc | hc
  · exact (List.mem_append.1 hc).imp (hkept.key c) fun hc => .inl (hkept.blanks c hc)
  · rcases List.mem_cons.1 hc with rfl | hc
    · exact .inr (.inr hkept.mark)
    · exact .inr (.inl (hkept.after c hc))

/-- A value that does not end with a quote is not quoted. -/
theorem exists_plain {x y : List Char} (h : IsSecret kept (x ++ y) rest) (hy : y ≠ [])
    (hquote : ∀ c ∈ y, c ≠ '"' ∧ c ≠ '\x27') : ∃ lead value, IsLead lead ∧ x ++ y = lead ++ value ∧
      (∀ c ∈ value, isValueChar c) ∧ ∀ c ∈ rest.head?, isValueChar c = false := by
  obtain ⟨lead, value, hlead, hvalue, hsplit⟩ := h.lost
  cases hvalue with
  | plain _ hchars hrest => exact ⟨lead, value, hlead, hsplit, hchars, hrest⟩
  | quoted quote body hor =>
    obtain ⟨y, last, rfl⟩ := (List.eq_nil_or_concat' y).resolve_left hy
    rw [← List.append_assoc, ← List.append_assoc] at hsplit
    cases (List.append_inj' hsplit rfl).2
    have hne := hquote quote (by simp)
    exact (hor.elim hne.1 hne.2).elim

theorem ends {x y : List Char} (h : IsSecret kept (x ++ y) rest) (hy : y ≠ [])
    (hquote : ∀ c ∈ y, c ≠ '"' ∧ c ≠ '\x27') : ∀ c ∈ rest.head?, isValueChar c = false := by
  obtain ⟨_, _, _, _, _, hrest⟩ := h.exists_plain hy hquote
  exact hrest

/-- Without a mark there is no way past what is kept. -/
theorem prefix_kept (h : IsSecret kept lost rest) (hw : ∀ c ∈ w, c ≠ '=' ∧ c ≠ ':') :
    w <+: kept ++ r ↔ w <+: kept := by
  obtain ⟨key, blanks, mark, after, hkept, rfl⟩ := h.kept
  have hmark : mark ∉ w := fun hmem => by
    have := hw mark hmem
    have := hkept.mark
    tauto
  rw [List.append_assoc, List.cons_append, Text.prefix_append_cons_iff hmark,
    Text.prefix_append_cons_iff hmark]

/-- Behind a blank there is no key any more. -/
theorem isKeyChar_behind_blank {l : List Char} {b : Char} (h : IsSecret kept lost rest)
    (hkept : kept = l ++ b :: c :: r) (hb : Text.isBlank b) : isKeyChar c = false := by
  obtain ⟨key, blanks, mark, after, hk, rfl⟩ := h.kept
  have hnot : b ∉ key := fun hmem => by simpa [isKeyChar_of_isBlank hb] using hk.key b hmem
  rw [List.append_assoc] at hkept
  rcases List.mem_append.1 (Text.mem_right_of_append_eq hkept hnot) with hc | hc
  · exact isKeyChar_of_isBlank (hk.blanks c hc)
  · rcases List.mem_cons.1 hc with rfl | hc
    · exact isKeyChar_of_mark hk.mark
    · exact isKeyChar_of_isBlank (hk.after c hc)

theorem quote_not_mem_kept (h : IsSecret kept lost rest) : '"' ∉ kept := by
  intro hmem
  rcases h.of_mem_kept hmem with h | h | h | h <;> revert h <;> decide

/-- What ends with a blank in front of a key, in a value that is not quoted, is the word for a bearer. -/
theorem isLead {lead y : List Char} (h : IsSecret kept (lead ++ y) rest)
    (hlead : ∀ c ∈ lead.getLast?, Text.isBlank c) (hkey : ∀ c ∈ y.head?, isKeyChar c) (hy : y ≠ [])
    (hquote : ∀ c ∈ y, c ≠ '"' ∧ c ≠ '\x27') : IsLead lead := by
  obtain ⟨lead', value, hlead', hsplit, hchars, _⟩ := h.exists_plain hy hquote
  rcases List.eq_nil_or_concat' lead with rfl | ⟨init, b, rfl⟩
  · exact .inl rfl
  have hb : Text.isBlank b := hlead b (List.getLast?_concat ..)
  rcases List.append_eq_append_iff.1 hsplit with ⟨z, rfl, rfl⟩ | ⟨z, hz, rfl⟩
  · cases z with
    | nil => rwa [List.append_nil] at hlead'
    | cons c z =>
      obtain hnil | ⟨word, blanks, hparts, hword, _, hblanks⟩ := hlead'
      · simp at hnil
      · have hnot : b ∉ word := fun hmem => by
          simpa [hb] using isBlank_of_mem_letters (by decide) hword b hmem
        rw [List.append_assoc] at hparts
        have hc := hblanks c (Text.mem_right_of_append_eq hparts.symm hnot)
        simpa [isKeyChar_of_isBlank hc] using hkey c rfl
  · rcases List.eq_nil_or_concat' z with rfl | ⟨z, c, rfl⟩
    · rwa [hz, List.append_nil]
    · rw [← List.append_assoc] at hz
      cases (List.append_inj' hz rfl).2
      have hvalueChar := hchars b (by simp)
      simp [isValueChar, hb] at hvalueChar

/-- A value that holds the beginning of a word holds it all. -/
theorem word_prefix {x y : List Char} (h : IsSecret kept (x ++ y) rest) (hy : y ≠ [])
    (hw : ∀ c ∈ w, isKeyChar c) (hsplit : y ++ rest = w ++ r) : w <+: y := by
  rcases List.append_eq_append_iff.1 hsplit with ⟨z, rfl, hrest⟩ | ⟨z, rfl, _⟩
  · cases z with
    | nil => rw [List.append_nil]
    | cons d z =>
      have hend := h.ends hy fun c hc => ne_quotes_of_isKeyChar (hw c (List.mem_append_left _ hc))
      have hd := isValueChar_of_isKeyChar (hw d (by simp))
      simpa [hd] using hend d (by rw [hrest]; rfl)
  · exact List.prefix_append _ _

end IsSecret

end Resilience.Scrub
