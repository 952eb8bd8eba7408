import Resilience.Proofs.Friendly.Plain
import Resilience.Proofs.Friendly.Redaction

/-!
# Assignments to keys of secrets

A value that is assigned to a key of a secret is taken out, unless a secret in front of the assignment
takes the key for its own value. Then the search goes on behind the key, and if a blank follows there,
the value is shown (`Assignment.shown_iff`).
-/

namespace Resilience.Scrub

variable {kept lost front : List Char} {c : Char}

/-- An assignment to a key of a secret, in a text. -/
structure Assignment where
  /-- What precedes the assignment: nothing, or a text that ends with a blank. -/
  front : List Char
  key : List Char
  blanks : List Char
  mark : Char
  after : List Char
  value : List Char
  /-- What follows the assignment: nothing, or a text that begins where values end. -/
  rest : List Char
  blank_front : ∀ c ∈ front.getLast?, Text.isBlank c
  kept : IsKept key blanks mark after
  word_key : ∀ c ∈ key.head?, Text.isWord c
  value_ne_nil : value ≠ []
  value_word : ∀ c ∈ value, c.isAlphanum
  end_rest : ∀ c ∈ rest.head?, Text.isBlank c ∨ c = '&' ∨ c = ',' ∨ c = ';'
  not_front : ¬ value <:+: front
  not_key : ¬ value <:+: key
  not_rest : ¬ value <:+: rest
  not_redacted : ¬ value <:+: redacted.toList

/-- A text behind which the value of a secret is due. -/
def AwaitsSecret (text : List Char) : Prop :=
  ∃ front key blanks mark after lead, IsKept key blanks mark after ∧ IsLead lead ∧
    text = front ++ (key ++ blanks ++ mark :: after) ++ lead

namespace Assignment

variable {a : Assignment}

def separator (a : Assignment) : List Char := a.blanks ++ a.mark :: a.after

def text (a : Assignment) : List Char := a.front ++ (a.key ++ (a.separator ++ (a.value ++ a.rest)))

/-- A secret in front of the assignment takes the key for its value, or the end of its value, and the
value ends before the separator does. -/
def KeyTaken (a : Assignment) : Prop :=
  ∃ front kept lead left right, a.front = front ++ kept ++ lead ∧ a.separator = left ++ right ∧
    right ≠ [] ∧ Taken none front kept (lead ++ a.key ++ left) (right ++ (a.value ++ a.rest))

theorem isForeign (a : Assignment) : IsForeign a.value where
  opening h := absurd (a.value_word _ h) (by decide)
  closing h := absurd (a.value_word _ h) (by decide)
  not_infix := a.not_redacted

theorem isKeyChar_value (a : Assignment) : ∀ c ∈ a.value, isKeyChar c :=
  fun c hc => isKeyChar_of_isAlphanum (a.value_word c hc)

theorem of_mem_separator (hc : c ∈ a.separator) : Text.isBlank c ∨ c = '=' ∨ c = ':' := by
  rcases List.mem_append.1 hc with hc | hc
  · exact .inl (a.kept.blanks c hc)
  · rcases List.mem_cons.1 hc with rfl | hc
    · exact .inr a.kept.mark
    · exact .inl (a.kept.after c hc)

theorem ne_quotes_of_mem_separator (hc : c ∈ a.separator) : c ≠ '"' ∧ c ≠ '\x27' := by
  constructor <;> rintro rfl <;> exact absurd (of_mem_separator hc) (by decide)

theorem isKeyChar_separator (hc : c ∈ a.separator) : isKeyChar c = false :=
  (of_mem_separator hc).elim isKeyChar_of_isBlank isKeyChar_of_mark

/-! ## A value that is taken out -/

/-- The value stands neither in front of the search for it nor behind. -/
theorem hidden_of_taken {x : List Char} (h : Taken none front kept lost x)
    (htext : a.text = front ++ (kept ++ lost ++ x)) (hfront : ¬ a.value <:+: front ++ kept)
    (hx : x <:+ a.rest) : ¬ a.value <:+: redactChars none a.text := by
  intro hshown
  rw [htext] at hshown
  rcases h.infix_or_infix a.isForeign hshown with hshown | hshown
  · exact hfront hshown
  · exact a.not_rest (hshown.trans hx.isInfix)

/-- What the value is assigned to does not hold it. -/
theorem not_infix_kept (a : Assignment) : ¬ a.value <:+: a.front ++ (a.key ++ a.separator) := by
  obtain ⟨w, last, hvalue⟩ := (List.eq_nil_or_concat a.value).resolve_left a.value_ne_nil
  rw [List.concat_eq_append] at hvalue
  have hlast : last ∉ a.separator := fun hmem => by
    simpa [isKeyChar_separator hmem] using a.isKeyChar_value last (by simp [hvalue])
  intro hshown
  rw [← List.append_assoc, hvalue] at hshown
  have hkey := Text.infix_of_infix_append hshown hlast
  rw [← hvalue] at hkey
  rcases List.eq_nil_or_concat a.front with hfront | ⟨front, d, hfront⟩
  · rw [hfront, List.nil_append] at hkey
    exact a.not_key hkey
  · have hd : d ∉ a.value := fun hmem => by
      have hblank := a.blank_front d (by simp [hfront])
      simpa [isKeyChar_of_isBlank hblank] using a.isKeyChar_value d hmem
    rw [hfront, List.concat_eq_append, List.append_assoc, List.singleton_append,
      Text.infix_append_cons_iff hd] at hkey
    refine hkey.elim (fun hkey => a.not_front ?_) a.not_key
    rw [hfront, List.concat_eq_append]
    exact hkey.trans (List.prefix_append _ _).isInfix

theorem exists_credentialAt (a : Assignment) : ∃ lost, credentialAt (a.value ++ a.rest) = some lost := by
  obtain ⟨c, w, hvalue⟩ := List.exists_cons_of_ne_nil a.value_ne_nil
  have hc := isValueChar_of_isKeyChar (a.isKeyChar_value c (by simp [hvalue]))
  have hat : (valueAt (a.value ++ a.rest)).isSome := by
    rw [hvalue, List.cons_append, valueAt]
    simp [hc]
    split <;> simp
  rw [← Option.isSome_iff_exists, credentialAt, Option.isSome_or, hat, Bool.or_true]

/-- Behind a text that begins with the value there is a part of the rest. -/
theorem suffix_rest {x y : List Char} (hy : a.value <+: y) (hsplit : a.value ++ a.rest = y ++ x) :
    x <:+ a.rest := by
  obtain ⟨z, rfl⟩ := hy
  rw [List.append_assoc] at hsplit
  exact ⟨z, (List.append_cancel_left hsplit).symm⟩

theorem hidden_of_passes (h : ∃ shown, Passes (a.key ++ (a.separator ++ (a.value ++ a.rest))) none a.front
    shown) : ¬ a.value <:+: redactChars none a.text := by
  obtain ⟨lost, hlost⟩ := a.exists_credentialAt
  have hbefore : Text.isBoundary (a.front.getLast?.or none) a.key.head? := by
    obtain ⟨c, w, hkey⟩ := List.exists_cons_of_ne_nil a.kept.key_ne_nil
    have hword := a.word_key c (by simp [hkey])
    have hfront : a.front.getLast?.any Text.isWord = false := by
      cases hlast : a.front.getLast? with
      | none => rfl
      | some d => exact Text.isWord_of_isBlank (a.blank_front d hlast)
    simp [Text.isBoundary, hkey, hword, hfront]
  have hvalue : ∀ c ∈ (a.value ++ a.rest).head?, Text.isBlank c = false := by
    obtain ⟨d, w, hvalue⟩ := List.exists_cons_of_ne_nil a.value_ne_nil
    intro c hc
    obtain rfl : d = c := by simpa [hvalue] using hc
    exact isBlank_of_isKeyChar (a.isKeyChar_value d (by simp [hvalue]))
  have hparts : a.key ++ a.blanks ++ a.mark :: a.after ++ (a.value ++ a.rest) =
      a.key ++ (a.separator ++ (a.value ++ a.rest)) := by
    simp [separator]
  have hsecret := secretAt_of_isKept a.kept hbefore hvalue
  rw [hlost, Option.map_some] at hsecret
  obtain ⟨x, hsplit, his⟩ := secretAt_eq_some hsecret
  rw [List.append_assoc _ lost] at hsplit
  have hrest := List.append_cancel_left hsplit
  have htaken : Taken none a.front (a.key ++ a.blanks ++ a.mark :: a.after) lost x := by
    constructor <;> rw [List.append_assoc _ lost, ← hrest]
    · rwa [hparts]
    · exact hsecret
  refine hidden_of_taken htaken ?_ ?_ ?_
  · rw [List.append_assoc _ lost, ← hrest, hparts, text]
  · rw [List.append_assoc a.key]
    exact a.not_infix_kept
  · exact suffix_rest (his.word_prefix (x := []) his.lost_ne_nil a.isKeyChar_value hrest.symm) hrest

/-- No value ends where the separator does. -/
theorem not_isSecret (a : Assignment) (x : List Char) :
    ¬ IsSecret kept (x ++ a.separator) (a.value ++ a.rest) := by
  intro h
  obtain ⟨c, w, hvalue⟩ := List.exists_cons_of_ne_nil a.value_ne_nil
  have hend := h.ends (by simp [separator]) fun d hd => ne_quotes_of_mem_separator hd
  have hc := isValueChar_of_isKeyChar (a.isKeyChar_value c (by simp [hvalue]))
  simpa [hc] using hend c (by simp [hvalue])

/-- A secret that the assignment begins in takes its key, and its value too if it does not end before. -/
theorem hidden_or_keyTaken (h : Within none a.front (a.key ++ (a.separator ++ (a.value ++ a.rest)))) :
    ¬ a.value <:+: redactChars none a.text ∨ a.KeyTaken := by
  obtain ⟨front, kept, lost, x, lead, y, htaken, hparts, hlead, hy, hfront, hsplit⟩ := h
  have his := htaken.isSecret
  obtain ⟨lead, rfl, rfl⟩ : ∃ lead', lead = kept ++ lead' ∧ lost = lead' ++ y := by
    rcases List.append_eq_append_iff.1 hparts with hparts | ⟨z, hkept, hyz⟩
    · exact hparts
    · cases z with
      | nil => exact ⟨[], by simpa using hkept.symm, hyz.symm⟩
      | cons c z =>
        obtain ⟨init, b, rfl⟩ := (List.eq_nil_or_concat' lead).resolve_left hlead
        have hb := a.blank_front b (by rw [hfront, ← List.append_assoc, List.getLast?_concat]; rfl)
        obtain ⟨k, w, hkey⟩ := List.exists_cons_of_ne_nil a.kept.key_ne_nil
        obtain ⟨rfl, _⟩ : k = c ∧ _ := by
          rw [hkey, hyz] at hsplit
          exact List.cons_eq_cons.1 hsplit
        have hk := a.kept.key k (by simp [hkey])
        rw [List.append_assoc] at hkept
        simp [his.isKeyChar_behind_blank hkept hb] at hk
  obtain ⟨y, rfl⟩ := his.word_prefix hy a.kept.key hsplit.symm
  rw [List.append_assoc] at hsplit
  have hsplit := List.append_cancel_left hsplit
  have htext : a.text = front ++ (kept ++ (lead ++ (a.key ++ y)) ++ x) := by
    rw [text, hfront, hsplit]
    simp only [List.append_assoc]
  rw [← List.append_assoc lead] at his htaken htext
  rcases List.append_eq_append_iff.1 hsplit with ⟨z, rfl, hrest⟩ | ⟨right, hseparator, rfl⟩
  · left
    have hz : z ≠ [] := by
      rintro rfl
      rw [List.nil_append] at hrest
      rw [List.append_nil, ← hrest] at his
      exact a.not_isSecret _ his
    rw [← List.append_assoc] at his
    refine hidden_of_taken htaken htext (fun hshown => a.not_front ?_)
      (suffix_rest (his.word_prefix hz a.isKeyChar_value hrest.symm) hrest)
    rw [hfront, ← List.append_assoc]
    exact hshown.trans (List.prefix_append _ _).isInfix
  · refine .inr ⟨front, kept, lead, y, right, by rw [hfront, List.append_assoc], hseparator, ?_, htaken⟩
    rintro rfl
    rw [List.append_nil] at hseparator
    rw [List.nil_append, ← hseparator] at his
    exact a.not_isSecret _ his

theorem shown_of_keyTaken (h : a.KeyTaken) : a.value <:+: redactChars none a.text := by
  obtain ⟨front, kept, lead, left, right, hfront, hseparator, _, htaken⟩ := h
  obtain ⟨shown, hpasses⟩ := htaken.passes
  have htext : a.text = front ++ (kept ++ (lead ++ a.key ++ left) ++ (right ++ (a.value ++ a.rest))) := by
    rw [text, hfront, hseparator]
    simp only [List.append_assoc]
  have hright : ∀ c ∈ right, isKeyChar c = false := fun c hc =>
    isKeyChar_separator (hseparator ▸ List.mem_append_right _ hc)
  rw [htext, hpasses.redactChars_eq, redactChars_of_secret htaken.secret,
    redactChars_of_not_isKeyChar hright]
  have hvalue : a.value <+: redactChars (right.getLast?.or (lead ++ a.key ++ left).getLast?)
      (a.value ++ a.rest) :=
    prefix_redactChars (fun c hc => ne_marks_of_isKeyChar (a.isKeyChar_value c hc)) (List.prefix_append _ _)
  exact (hvalue.isInfix.trans (List.suffix_append _ _).isInfix).trans
    ((List.suffix_append _ _).trans (List.suffix_append _ _)).isInfix

theorem awaitsSecret_of_keyTaken (h : a.KeyTaken) :
    (∃ c ∈ a.separator, Text.isBlank c) ∧ AwaitsSecret a.front := by
  obtain ⟨front, kept, lead, left, right, hfront, hseparator, hright, htaken⟩ := h
  have his := htaken.isSecret
  have hquote : ∀ d ∈ a.key ++ left, d ≠ '"' ∧ d ≠ '\x27' := by
    intro d hd
    rcases List.mem_append.1 hd with hd | hd
    · exact ne_quotes_of_isKeyChar (a.kept.key d hd)
    · exact ne_quotes_of_mem_separator (a := a) (by simp [hseparator, hd])
  rw [List.append_assoc lead] at his
  have hkey : a.key ++ left ≠ [] := by simp [a.kept.key_ne_nil]
  constructor
  · obtain ⟨c, right, rfl⟩ := List.exists_cons_of_ne_nil hright
    have hc : c ∈ a.separator := by simp [hseparator]
    have hend := his.ends hkey hquote c rfl
    rcases of_mem_separator hc with hblank | rfl | rfl
    · exact ⟨c, hc, hblank⟩
    · exact absurd hend (by decide)
    · exact absurd hend (by decide)
  · obtain ⟨key, blanks, mark, after, hkept, rfl⟩ := his.kept
    refine ⟨front, key, blanks, mark, after, lead, hkept, his.isLead ?_ ?_ hkey hquote, hfront⟩
    · intro d hd
      refine a.blank_front d ?_
      rw [hfront, List.getLast?_append, hd]
      rfl
    · intro d hd
      obtain ⟨k, w, hk⟩ := List.exists_cons_of_ne_nil a.kept.key_ne_nil
      obtain rfl : k = d := by simpa [hk] using hd
      exact a.kept.key k (by simp [hk])

/-- A value that is assigned to a key of a secret is shown if and only if a secret in front of it takes the
key for its value and ends before the separator does. So it is hidden if there is no blank in the
separator, and if in front of the assignment no value of a secret is due. -/
theorem shown_iff (a : Assignment) :
    (a.value <:+: (redactSecrets (String.ofList a.text)).toList ↔ a.KeyTaken) ∧
    (a.KeyTaken → (∃ c ∈ a.separator, Text.isBlank c) ∧ AwaitsSecret a.front) := by
  rw [redactSecrets, String.toList_ofList, String.toList_ofList]
  refine ⟨⟨fun hshown => ?_, shown_of_keyTaken⟩, awaitsSecret_of_keyTaken⟩
  rcases passes_or_within none a.front (a.key ++ (a.separator ++ (a.value ++ a.rest))) with
    hpasses | hwithin
  · exact absurd hshown (hidden_of_passes hpasses)
  · exact (hidden_or_keyTaken hwithin).resolve_left fun hhidden => hhidden hshown

/-- A password in a line that begins with the key of another secret. -/
def labelled : Assignment where
  front := "auth: ".toList
  key := "password".toList
  blanks := []
  mark := ':'
  after := [' ']
  value := "hunter2".toList
  rest := []
  blank_front c hc := by
    obtain rfl : ' ' = c := by simpa using hc
    decide
  kept :=
    { names := by decide
      key := List.all_eq_true.1 (by decide)
      blanks := by simp
      mark := by decide
      after := List.all_eq_true.1 (by decide) }
  word_key c hc := by
    obtain rfl : 'p' = c := by simpa using hc
    decide
  value_ne_nil := by decide
  value_word := List.all_eq_true.1 (by decide)
  end_rest := by simp
  not_front := by decide
  not_key := by decide
  not_rest := by decide
  not_redacted := by decide

/-- The label takes the key for its value, and the password is shown. -/
theorem labelled_shown :
    String.ofList labelled.text = "auth: password: hunter2" ∧
      redactSecrets "auth: password: hunter2" = "auth: [REDACTED] hunter2" ∧
      labelled.value <:+: (redactSecrets (String.ofList labelled.text)).toList := by
  have hsecret : secretAt none ("auth: ".toList ++ "password:".toList ++ " hunter2".toList) =
      some ("auth: ".toList, "password:".toList) := by decide
  have hrest : redactChars "password:".toList.getLast? " hunter2".toList = " hunter2".toList :=
    redactChars_eq_self (by simp)
  have hredacted := redactChars_of_secret hsecret
  rw [hrest] at hredacted
  have htext : String.ofList labelled.text = "auth: password: hunter2" := by decide
  have hshown : redactSecrets "auth: password: hunter2" = "auth: [REDACTED] hunter2" :=
    congrArg String.ofList hredacted
  refine ⟨htext, hshown, ?_⟩
  rw [htext, hshown]
  decide

end Assignment

end Resilience.Scrub
