import Resilience.Proofs.Text.Pattern
import Resilience.Proofs.Friendly.Secrets

/-!
# What of a text is taken out

The search for secrets passes over a text from left to right (`Passes`) and takes values out (`Taken`). A
place in a text is one that the search passes, or it is within a secret (`passes_or_within`). A word that
is shown stands outside any value that is taken out (`Taken.infix_or_infix`), and a quoted word that is in
no such value is shown (`quoted_shown_or_taken`).
-/

namespace Resilience.Scrub

variable {before : Option Char} {c : Char} {cs w kept lost front shown rest l r : List Char}

/-! ## The search -/

theorem redactChars_of_secret (h : secretAt before (kept ++ lost ++ rest) = some (kept, lost)) :
    redactChars before (kept ++ lost ++ rest) =
      kept ++ redacted.toList ++ redactChars lost.getLast? rest := by
  obtain ⟨_, _, hsecret⟩ := secretAt_eq_some h
  obtain ⟨c, cs, hcs⟩ : ∃ c cs, kept ++ lost ++ rest = c :: cs :=
    List.exists_cons_of_ne_nil (by simp [hsecret.lost_ne_nil])
  have hdrop : cs.drop (kept.length + lost.length - 1) = rest := by
    have hlength : kept.length + lost.length - 1 + 1 = (kept ++ lost).length := by
      have := List.length_pos_of_ne_nil hsecret.lost_ne_nil
      rw [List.length_append]
      omega
    rw [← List.drop_succ_cons (a := c), ← hcs, hlength, List.drop_left]
  rw [hcs] at h
  rw [hcs, redactChars, h]
  dsimp only
  rw [hdrop]

theorem redactChars_of_none (h : secretAt before (c :: cs) = none) :
    redactChars before (c :: cs) = c :: redactChars (some c) cs := by
  rw [redactChars, h]

theorem secretAt_of_not_isKeyChar (h : isKeyChar c = false) : secretAt before (c :: cs) = none := by
  rw [secretAt]
  split
  · simp [h, namesSecret]
  · rfl

theorem redactChars_of_not_isKeyChar (h : ∀ c ∈ l, isKeyChar c = false) :
    redactChars before (l ++ r) = l ++ redactChars (l.getLast?.or before) r := by
  induction l generalizing before with
  | nil => rfl
  | cons c l ih =>
    rw [List.cons_append, redactChars_of_none (secretAt_of_not_isKeyChar (h c List.mem_cons_self)),
      ih fun d hd => h d (List.mem_cons_of_mem _ hd), Text.Pattern.getLast?_cons_or, List.cons_append]

/-- What a text begins with is shown if there is no mark in it: at most it is the beginning of a key. -/
theorem prefix_redactChars (hw : ∀ c ∈ w, c ≠ '=' ∧ c ≠ ':') (h : w <+: cs) :
    w <+: redactChars before cs := by
  induction w generalizing before cs with
  | nil => exact List.nil_prefix
  | cons c w ih =>
    obtain ⟨rest, rfl⟩ := h
    cases hsecret : secretAt before (c :: w ++ rest) with
    | none =>
      rw [List.cons_append] at hsecret ⊢
      rw [redactChars_of_none hsecret, List.cons_prefix_cons]
      exact ⟨rfl, ih (fun d hd => hw d (List.mem_cons_of_mem _ hd)) (List.prefix_append _ _)⟩
    | some secret =>
      obtain ⟨kept, lost⟩ := secret
      obtain ⟨rest', hsplit, his⟩ := secretAt_eq_some hsecret
      have hbegins : c :: w <+: kept := by
        rw [← his.prefix_kept hw, ← List.append_assoc, ← hsplit]
        exact List.prefix_append _ _
      rw [hsplit] at hsecret ⊢
      rw [redactChars_of_secret hsecret, List.append_assoc]
      exact hbegins.trans (List.prefix_append _ _)

theorem getLast?_secret_append (h : secretAt before (kept ++ lost ++ r) = some (kept, lost)) :
    (kept ++ lost ++ l).getLast?.or before = l.getLast?.or lost.getLast? := by
  obtain ⟨_, _, his⟩ := secretAt_eq_some h
  rw [Text.Pattern.getLast?_append_or, Text.Pattern.getLast?_append_or]
  cases hlost : lost.getLast? with
  | none => exact absurd (List.getLast?_eq_none_iff.1 hlost) his.lost_ne_nil
  | some c => rfl

/-- The search passes over `front`, which comes after `before` and in front of `rest`, and shows it in
this form. -/
inductive Passes (rest : List Char) : Option Char → List Char → List Char → Prop
  | done {before : Option Char} : Passes rest before [] []
  | char {before : Option Char} {c : Char} {front shown : List Char}
      (hnone : secretAt before (c :: (front ++ rest)) = none)
      (hpasses : Passes rest (some c) front shown) : Passes rest before (c :: front) (c :: shown)
  | secret {before : Option Char} {kept lost front shown : List Char}
      (hsecret : secretAt before (kept ++ lost ++ (front ++ rest)) = some (kept, lost))
      (hpasses : Passes rest lost.getLast? front shown) :
      Passes rest before (kept ++ lost ++ front) (kept ++ redacted.toList ++ shown)

namespace Passes

theorem redactChars_eq (h : Passes rest before front shown) :
    redactChars before (front ++ rest) = shown ++ redactChars (front.getLast?.or before) rest := by
  induction h with
  | done => rfl
  | char hnone _ ih =>
    rw [List.cons_append, redactChars_of_none hnone, ih, Text.Pattern.getLast?_cons_or, List.cons_append]
  | @secret before kept lost front shown hsecret _ ih =>
    rw [List.append_assoc (kept ++ lost), redactChars_of_secret hsecret, ih,
      getLast?_secret_append hsecret, ← List.append_assoc]

/-- What is shown ends like the text, or with what stands for a value. -/
theorem getLast?_shown (h : Passes rest before front shown) :
    shown.getLast? = front.getLast? ∨ shown.getLast? = some ']' := by
  induction h with
  | done => exact .inl rfl
  | char _ _ ih =>
    rw [List.getLast?_cons, List.getLast?_cons]
    rcases ih with ih | ih
    · exact .inl (by rw [ih])
    · exact .inr (by rw [ih]; rfl)
  | @secret before kept lost front shown _ _ ih =>
    have hredacted : redacted.toList.getLast?.or kept.getLast? = some ']' := rfl
    rw [List.getLast?_append, List.getLast?_append, List.getLast?_append, hredacted]
    rcases ih with ih | ih
    · rw [ih]
      cases front.getLast? with
      | none => exact .inr rfl
      | some c => exact .inl rfl
    · exact .inr (by rw [ih]; rfl)

end Passes

/-- In a text that consists of these parts, with `before` in front, the search comes to a secret whose
key, `kept`, is kept and whose value, `lost`, is taken out. -/
structure Taken (before : Option Char) (front kept lost rest : List Char) : Prop where
  passes : ∃ shown, Passes (kept ++ lost ++ rest) before front shown
  secret : secretAt (front.getLast?.or before) (kept ++ lost ++ rest) = some (kept, lost)

namespace Taken

theorem isSecret (h : Taken before front kept lost rest) : IsSecret kept lost rest := by
  obtain ⟨rest', hsplit, his⟩ := secretAt_eq_some h.secret
  exact List.append_cancel_left hsplit ▸ his

theorem char (hnone : secretAt before (c :: (front ++ (kept ++ lost ++ rest))) = none)
    (h : Taken (some c) front kept lost rest) : Taken before (c :: front) kept lost rest where
  passes :=
    let ⟨_, hpasses⟩ := h.passes
    ⟨_, .char hnone hpasses⟩
  secret := by
    rw [Text.Pattern.getLast?_cons_or]
    exact h.secret

theorem secret_append {kept' lost' : List Char}
    (hsecret : secretAt before (kept' ++ lost' ++ (front ++ (kept ++ lost ++ rest))) =
      some (kept', lost'))
    (h : Taken lost'.getLast? front kept lost rest) :
    Taken before (kept' ++ lost' ++ front) kept lost rest where
  passes :=
    let ⟨_, hpasses⟩ := h.passes
    ⟨_, .secret hsecret hpasses⟩
  secret := by
    rw [getLast?_secret_append hsecret]
    exact h.secret

end Taken

/-- The place between two parts of a text is within a secret. -/
def Within (before : Option Char) (l r : List Char) : Prop :=
  ∃ front kept lost rest x y, Taken before front kept lost rest ∧ kept ++ lost = x ++ y ∧
    x ≠ [] ∧ y ≠ [] ∧ l = front ++ x ∧ r = y ++ rest

theorem Within.text_eq {front x y : List Char} (hxy : kept ++ lost = x ++ y) :
    front ++ x ++ (y ++ rest) = front ++ (kept ++ lost ++ rest) := by
  rw [hxy]
  simp only [List.append_assoc]

/-- By induction on the text in front of the place, which a secret that begins there is part of or not. -/
theorem passes_or_within (before : Option Char) (l r : List Char) :
    (∃ shown, Passes r before l shown) ∨ Within before l r := by
  induction hn : l.length using Nat.strong_induction_on generalizing before l with
  | _ n ih =>
    cases l with
    | nil => exact .inl ⟨[], .done⟩
    | cons c l =>
      cases hsecret : secretAt before (c :: (l ++ r)) with
      | none =>
        rcases ih l.length (by simp [← hn]) (some c) l rfl with
          ⟨shown, hpasses⟩ | ⟨front, kept, lost, rest, x, y, htaken, hxy, hx, hy, rfl, rfl⟩
        · exact .inl ⟨c :: shown, .char hsecret hpasses⟩
        · rw [Within.text_eq hxy] at hsecret
          exact .inr ⟨c :: front, kept, lost, rest, x, y, htaken.char hsecret, hxy, hx, hy, rfl, rfl⟩
      | some secret =>
        obtain ⟨kept, lost⟩ := secret
        obtain ⟨rest, hsplit, his⟩ := secretAt_eq_some hsecret
        have hparts : c :: l ++ r = kept ++ lost ++ rest := hsplit
        have hcases : (∃ front, c :: l = kept ++ lost ++ front ∧ rest = front ++ r) ∨
            ∃ y, y ≠ [] ∧ kept ++ lost = c :: l ++ y ∧ r = y ++ rest := by
          rcases List.append_eq_append_iff.1 hparts with
            ⟨y, hkept, hr⟩ | ⟨front, hl, hrest⟩
          · by_cases hy : y = []
            · subst hy
              exact .inl ⟨[], by simpa using hkept.symm, hr.symm⟩
            · exact .inr ⟨y, hy, hkept, hr⟩
          · exact .inl ⟨front, hl, hrest⟩
        rw [hsplit] at hsecret
        rcases hcases with ⟨front, hl, rfl⟩ | ⟨y, hy, hkept, hr⟩
        · have hlt : front.length < n := by
            have := List.length_pos_of_ne_nil his.lost_ne_nil
            rw [← hn, hl, List.length_append, List.length_append]
            omega
          rw [hl]
          rcases ih front.length hlt lost.getLast? front rfl with
            ⟨shown, hpasses⟩ | ⟨front, kept', lost', rest, x, y, htaken, hxy, hx, hy, rfl, rfl⟩
          · exact .inl ⟨_, .secret hsecret hpasses⟩
          · rw [Within.text_eq hxy] at hsecret
            exact .inr ⟨_, kept', lost', rest, x, y, htaken.secret_append hsecret, hxy, hx, hy,
              by simp only [List.append_assoc], rfl⟩
        · exact .inr ⟨[], kept, lost, rest, c :: l, y, ⟨⟨[], .done⟩, hsecret⟩, hkept,
            List.cons_ne_nil _ _, hy, rfl, hr⟩

theorem exists_passes (before : Option Char) (cs : List Char) :
    Passes [] before cs (redactChars before cs) := by
  rcases passes_or_within before cs [] with ⟨shown, hpasses⟩ | ⟨_, _, _, _, _, _, _, _, _, hy, _, hnil⟩
  · have hshown := hpasses.redactChars_eq
    rw [List.append_nil, redactChars, List.append_nil] at hshown
    rwa [hshown]
  · exact absurd (List.append_eq_nil_iff.1 hnil.symm).1 hy

/-! ## Words in redacted texts -/

/-- A word that what stands for a value neither holds nor is a part of. -/
structure IsForeign (w : List Char) : Prop where
  opening : '[' ∉ w
  closing : ']' ∉ w
  not_infix : ¬ w <:+: redacted.toList

theorem IsForeign.infix_iff (hw : IsForeign w) :
    w <:+: l ++ redacted.toList ++ r ↔ w <:+: l ∨ w <:+: r := by
  have hsplit : l ++ redacted.toList ++ r = l ++ '[' :: ("REDACTED".toList ++ ']' :: r) := by
    rw [List.append_assoc]
    rfl
  have hword : ¬ w <:+: "REDACTED".toList := fun h => hw.not_infix (h.trans ⟨['['], [']'], rfl⟩)
  rw [hsplit, Text.infix_append_cons_iff hw.opening, Text.infix_append_cons_iff hw.closing,
    or_iff_right hword]

namespace Passes

theorem prefix_of (h : Passes rest before front shown) (hw : '[' ∉ w) (hbegins : w <+: shown ++ r) :
    w <+: front ++ r := by
  induction h generalizing w with
  | done => exact hbegins
  | char _ _ ih =>
    cases w with
    | nil => exact List.nil_prefix
    | cons d w =>
      rw [List.cons_append, List.cons_prefix_cons] at hbegins ⊢
      exact ⟨hbegins.1, ih (fun hmem => hw (List.mem_cons_of_mem _ hmem)) hbegins.2⟩
  | @secret before kept lost front shown _ _ ih =>
    have hsplit : kept ++ redacted.toList ++ shown ++ r =
        kept ++ '[' :: ("REDACTED]".toList ++ shown ++ r) := by
      simp [redacted]
    rw [hsplit, Text.prefix_append_cons_iff hw] at hbegins
    rw [List.append_assoc, List.append_assoc]
    exact hbegins.trans (List.prefix_append _ _)

theorem infix_of (h : Passes rest before front shown) (hw : IsForeign w) (hshown : w <:+: shown ++ r) :
    w <:+: front ++ r := by
  induction h with
  | done => exact hshown
  | @char before c front shown hnone hpasses ih =>
    rw [List.cons_append, List.infix_cons_iff] at hshown ⊢
    exact hshown.imp ((Passes.char hnone hpasses).prefix_of hw.opening) ih
  | @secret before kept lost front shown _ _ ih =>
    rw [List.append_assoc _ shown, hw.infix_iff] at hshown
    rw [List.append_assoc, List.append_assoc]
    rcases hshown with hshown | hshown
    · exact hshown.trans (List.prefix_append _ _).isInfix
    · rw [← List.append_assoc]
      exact (ih hshown).trans (List.suffix_append _ _).isInfix

end Passes

theorem infix_of_redactChars (hw : IsForeign w) (h : w <:+: redactChars before cs) : w <:+: cs := by
  have hshown := (exists_passes before cs).infix_of (r := []) hw (by rwa [List.append_nil])
  rwa [List.append_nil] at hshown

theorem Passes.mem (h : Passes rest before front shown) (hc : c ∈ shown) :
    c ∈ front ∨ c ∈ redacted.toList := by
  induction h with
  | done => cases hc
  | char _ _ ih =>
    rcases List.mem_cons.1 hc with rfl | hc
    · exact .inl List.mem_cons_self
    · exact (ih hc).imp_left (List.mem_cons_of_mem _)
  | secret _ _ ih =>
    rcases List.mem_append.1 hc with hc | hc
    · exact (List.mem_append.1 hc).imp_left fun hc => List.mem_append_left _ (List.mem_append_left _ hc)
    · exact (ih hc).imp_left (List.mem_append_right _)

theorem mem_redactChars (h : c ∈ redactChars before cs) : c ∈ cs ∨ c ∈ redacted.toList :=
  (exists_passes before cs).mem h

/-- Where nothing is taken out, nothing changes. -/
theorem redactChars_eq_self_or_taken (before : Option Char) (cs : List Char) :
    redactChars before cs = cs ∨
    ∃ front kept lost rest, cs = front ++ (kept ++ lost ++ rest) ∧ Taken before front kept lost rest := by
  have hpasses := exists_passes before cs
  generalize redactChars before cs = shown at hpasses
  induction hpasses with
  | done => exact .inl rfl
  | @char before c front shown hnone _ ih =>
    rw [List.append_nil] at hnone
    rcases ih with rfl | ⟨front, kept, lost, rest, rfl, htaken⟩
    · exact .inl rfl
    · exact .inr ⟨c :: front, kept, lost, rest, rfl, htaken.char hnone⟩
  | @secret before kept lost front shown hsecret _ _ =>
    rw [List.append_nil] at hsecret
    exact .inr ⟨[], kept, lost, front, rfl, ⟨[], .done⟩, hsecret⟩

/-- A word that is shown stands in front of a value that is taken out, or behind it. -/
theorem Taken.infix_or_infix (h : Taken before front kept lost rest) (hw : IsForeign w)
    (hshown : w <:+: redactChars before (front ++ (kept ++ lost ++ rest))) :
    w <:+: front ++ kept ∨ w <:+: rest := by
  obtain ⟨shown, hpasses⟩ := h.passes
  rw [hpasses.redactChars_eq, redactChars_of_secret h.secret, ← List.append_assoc, ← List.append_assoc,
    hw.infix_iff] at hshown
  exact hshown.imp (hpasses.infix_of hw) (infix_of_redactChars hw)

/-- A word between quotes is shown, between its quotes or behind what stands for a value, if it is not in
a value that is taken out. -/
theorem quoted_shown_or_taken (before : Option Char) (l r : List Char) (hw : ∀ c ∈ w, isKeyChar c) :
    (∃ d, (d = '"' ∨ d = ']') ∧ d :: (w ++ ['"']) <:+: redactChars before (l ++ '"' :: (w ++ '"' :: r))) ∨
    ∃ front kept lost rest, l ++ '"' :: (w ++ '"' :: r) = front ++ (kept ++ lost ++ rest) ∧
      Taken before front kept lost rest ∧ w <:+: lost := by
  have hparts : l ++ '"' :: (w ++ '"' :: r) = l ++ ['"'] ++ (w ++ '"' :: r) := by simp
  rw [hparts]
  rcases passes_or_within before (l ++ ['"']) (w ++ '"' :: r) with
    ⟨shown, hpasses⟩ | ⟨front, kept, lost, rest, x, y, htaken, hxy, hx, hy, hfront, hrest⟩
  · left
    obtain ⟨d, hd, hlast⟩ : ∃ d, (d = '"' ∨ d = ']') ∧ shown.getLast? = some d := by
      rcases hpasses.getLast?_shown with hlast | hlast
      · exact ⟨'"', .inl rfl, by rw [hlast, List.getLast?_concat]⟩
      · exact ⟨']', .inr rfl, hlast⟩
    obtain ⟨shown, rfl⟩ := List.getLast?_eq_some_iff.1 hlast
    have hmarks : ∀ d ∈ w ++ ['"'], d ≠ '=' ∧ d ≠ ':' :=
      List.forall_mem_append.2
        ⟨fun d hd => ne_marks_of_isKeyChar (hw d hd), List.forall_mem_singleton.2 (by decide)⟩
    obtain ⟨behind, hbehind⟩ : w ++ ['"'] <+:
        redactChars ((l ++ ['"']).getLast?.or before) (w ++ '"' :: r) :=
      prefix_redactChars hmarks ⟨r, by simp⟩
    refine ⟨d, hd, shown, behind, ?_⟩
    rw [hpasses.redactChars_eq, ← hbehind]
    simp
  · right
    have his := htaken.isSecret
    have hquote : '"' ∈ x := by
      obtain ⟨init, last, rfl⟩ := (List.eq_nil_or_concat x).resolve_left hx
      rw [List.concat_eq_append, ← List.append_assoc] at hfront
      cases (List.append_inj' hfront rfl).2
      simp
    obtain ⟨x', rfl, rfl⟩ : ∃ x', x = kept ++ x' ∧ lost = x' ++ y := by
      rcases List.append_eq_append_iff.1 hxy with hsplit | ⟨y', hkept, _⟩
      · exact hsplit
      · exact absurd (hkept ▸ List.mem_append_left _ hquote) his.quote_not_mem_kept
    refine ⟨front, kept, x' ++ y, rest, ?_, htaken, ?_⟩
    · rw [hfront, hrest]
      simp only [List.append_assoc]
    · exact (his.word_prefix hy hw hrest.symm).isInfix.trans (List.suffix_append _ _).isInfix

end Resilience.Scrub
