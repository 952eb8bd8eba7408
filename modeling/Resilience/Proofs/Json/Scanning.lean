import Resilience.Json.Printer
import Resilience.Proofs.Json.Number

/-!
# Tokens as they are written

The characters that are written for a text or a number are scanned as its token (`spells_quote`,
`spells_number`), and what stands on the two sides of a mark is scanned by itself (`Spells.mark`).
-/

namespace Resilience.Json.Token

variable {cs ds : List Char} {ts us : List Token} {c : Char} {t u : Token}

/-- From one token to another, the characters are scanned as these tokens. The last of them may
have no end of its own. -/
def Spells (cs : List Char) (ts : List Token) : Prop :=
  ∀ done, ∃ s, cs.foldlM Scan.step ⟨.between, done⟩ = some s ∧
    s.flush = some ⟨.between, ts.reverse ++ done⟩

theorem Spells.scan (h : Spells cs ts) : scan cs = some ts := by
  obtain ⟨s, hs, hflush⟩ := h []
  simp [Token.scan, hs, hflush]

theorem spells_nil : Spells [] [] := fun _ => ⟨_, rfl, rfl⟩

/-! ## Marks -/

theorem mem_marks_of_ofMark (h : ofMark c = some t) :
    c ∈ ['[', ']', ':', ',', '\x7b', '\x7d'] := by
  unfold ofMark at h
  split at h
  case h_5 =>
    split at h
    · simp [*]
    split at h
    · simp [*]
    · cases h
  all_goals simp

/-- A mark is nothing else. -/
theorem class_of_ofMark (h : ofMark c = some t) : isSpace c = false ∧ c ≠ '"' ∧
    (c.isDigit || c = '-') = false ∧ c.isAlpha = false ∧ isNumberChar c = false := by
  have hall : ['[', ']', ':', ',', '\x7b', '\x7d'].all fun d => !isSpace d && d != '"' &&
    !(d.isDigit || d = '-') && !d.isAlpha && !isNumberChar d := by decide
  simpa [and_assoc] using List.all_eq_true.1 hall c (mem_marks_of_ofMark h)

/-- A mark ends a word or a number. -/
theorem Scan.step_mark {s : Scan} {done : List Token} (hs : s.flush = some ⟨.between, done⟩)
    (h : ofMark c = some t) : s.step c = some ⟨.between, t :: done⟩ := by
  obtain ⟨hspace, hquote, hdigit, halpha, hnumber⟩ := class_of_ofMark h
  have hstep : s.step c = s.flush.bind (·.start c) := by
    unfold step
    split <;> simp_all [flush]
  rw [hstep, hs, Option.bind_some]
  simp [start, hspace, hquote, hdigit, halpha, h]

/-- What stands on the two sides of a mark is scanned by itself. -/
theorem Spells.mark (hcs : Spells cs ts) (h : ofMark c = some t) (hds : Spells ds us) :
    Spells (cs ++ c :: ds) (ts ++ t :: us) := by
  intro done
  obtain ⟨s, hs, hflush⟩ := hcs done
  obtain ⟨s', hs', hflush'⟩ := hds (t :: (ts.reverse ++ done))
  refine ⟨s', ?_, by simpa using hflush'⟩
  simp [List.foldlM_append, hs, Scan.step_mark hflush h, hs']

theorem spells_commas {vs : List (String × List Token)} (h : ∀ v ∈ vs, Spells v.1.toList v.2) :
    Spells (commas (vs.map (·.1))).toList ([comma].intercalate (vs.map (·.2))) := by
  rw [commas, String.toList_intercalate, List.map_map]
  induction vs with
  | nil => exact spells_nil
  | cons v vs ih =>
    obtain ⟨hv, hvs⟩ := List.forall_mem_cons.1 h
    cases vs with
    | nil => simpa using hv
    | cons w vs => simpa [List.intercalate_cons_cons] using hv.mark (c := ',') rfl (ih hvs)

/-- Marks around texts with commas between them. -/
theorem spells_block {vs : List (String × List Token)} (left right : Char)
    (hleft : ofMark left = some t) (hright : ofMark right = some u)
    (h : ∀ v ∈ vs, Spells v.1.toList v.2) :
    Spells (left :: ((commas (vs.map (·.1))).toList ++ [right]))
      (t :: ([comma].intercalate (vs.map (·.2)) ++ [u])) :=
  spells_nil.mark hleft ((spells_commas h).mark hright spells_nil)

/-! ## Numbers -/

theorem foldlM_number (read : List Char) (done : List Token) (h : ∀ c ∈ cs, isNumberChar c) :
    cs.foldlM Scan.step ⟨.number read, done⟩ = some ⟨.number (cs.reverse ++ read), done⟩ := by
  induction cs generalizing read with
  | nil => rfl
  | cons c cs ih =>
    obtain ⟨hc, hcs⟩ := List.forall_mem_cons.1 h
    simp [Scan.step, hc, ih _ hcs]

theorem Scan.start_number (s : Scan) (h : c.isDigit ∨ c = '-') :
    s.start c = some { s with mode := .number [c] } := by
  have hall : [' ', '\n', '\t', '\r', '"'].all fun d => !(d.isDigit || d = '-') := by decide
  have hc : c ∉ [' ', '\n', '\t', '\r', '"'] := by
    intro hc
    have hother := List.all_eq_true.1 hall c hc
    simp_all
  simp only [List.mem_cons, List.not_mem_nil, or_false, not_or] at hc
  simp [start, isSpace, hc, h]

theorem spells_literal {n : Number.Literal} (h : Number.literal? cs = some n) :
    Spells cs [.num (Number.ofLiteral n)] := by
  have hchars := Number.chars_of_literal? h
  obtain ⟨c, hhead, hc⟩ := Number.head_of_literal? h
  obtain ⟨rest, rfl⟩ := List.head?_eq_some_iff.1 hhead
  intro done
  refine ⟨⟨.number (c :: rest).reverse, done⟩, ?_, by simp [Scan.flush, h]⟩
  have hstart : Scan.step ⟨.between, done⟩ c = some ⟨.number [c], done⟩ := Scan.start_number _ hc
  simp [hstart, foldlM_number _ _ (List.forall_mem_cons.1 hchars).2]

theorem spells_number {x : Number} (h : x.Legible) : Spells x.text.toList [.num (some x)] := by
  obtain ⟨n, hn, hx⟩ := Option.bind_eq_some_iff.1 h
  exact hx ▸ spells_literal hn

/-! ## Texts -/

theorem hexValue?_hexDigit {n : Nat} (h : n < 16) : Text.hexValue? (hexDigit n) = some n := by
  have hall : ∀ m : Fin 16, Text.hexValue? (hexDigit m) = some m.1 := by decide
  exact hall ⟨n, h⟩

/-- However a character is written, it is read as its code point. -/
theorem foldlM_escapeChar (c : Char) (read : List Nat) (done : List Token) :
    (escapeChar c).foldlM Scan.step ⟨.text read, done⟩ = some ⟨.text (c.toNat :: read), done⟩ := by
  unfold escapeChar
  split
  · next h => subst h; rfl
  split
  · next h => subst h; rfl
  split
  · next h => rw [h]; rfl
  split
  · next h => rw [h]; rfl
  split
  · next h => rw [h]; rfl
  split
  · next h => rw [h]; rfl
  split
  · next h => rw [h]; rfl
  split
  · next h =>
    have hzero : Text.hexValue? '0' = some 0 := rfl
    have hhigh := @hexValue?_hexDigit (c.toNat / 16) (by omega)
    have hlow := @hexValue?_hexDigit (c.toNat % 16) (by omega)
    have hvalue : 16 * (c.toNat / 16) + c.toNat % 16 = c.toNat := by omega
    simp [Scan.step, hzero, hhigh, hlow, hvalue]
  · next hquote hback _ _ _ _ _ h => simp [Scan.step, hquote, hback, h]

theorem foldlM_text (cs : List Char) (read : List Nat) (done : List Token) :
    (cs.flatMap escapeChar).foldlM Scan.step ⟨.text read, done⟩ =
      some ⟨.text ((cs.map Char.toNat).reverse ++ read), done⟩ := by
  induction cs generalizing read with
  | nil => rfl
  | cons c cs ih => simp [List.foldlM_append, foldlM_escapeChar, ih]

/-- The code points of a text are no halves of surrogate pairs. -/
theorem joinPairs_map_toNat (cs : List Char) : joinPairs (cs.map Char.toNat) = some cs := by
  induction cs with
  | nil => rfl
  | cons c cs ih =>
    have hvalid : c.toNat < 0xd800 ∨ 0xdfff < c.toNat ∧ c.toNat < 0x110000 := c.valid
    rw [List.map_cons, joinPairs.eq_def]
    dsimp only
    rw [if_neg (by omega), if_neg (by omega), ih, Option.map_some, Char.ofNat_toNat]

theorem spells_quote (s : String) : Spells (quote s).toList [.str (some s)] := by
  intro done
  have hend (read : List Nat) : Scan.step ⟨.text read, done⟩ '"' =
    some ⟨.between, .str ((joinPairs read.reverse).map String.ofList) :: done⟩ := rfl
  refine ⟨⟨.between, .str (some s) :: done⟩, ?_, rfl⟩
  calc (quote s).toList.foldlM Scan.step ⟨.between, done⟩
    _ = (s.toList.flatMap escapeChar ++ ['"']).foldlM Scan.step ⟨.text [], done⟩ := by
      simp only [quote, String.toList_append, String.toList_ofList]
      rfl
    _ = Scan.step ⟨.text (s.toList.map Char.toNat).reverse, done⟩ '"' := by
      simp [List.foldlM_append, foldlM_text]
    _ = some ⟨.between, .str (some s) :: done⟩ := by
      rw [hend, List.reverse_reverse, joinPairs_map_toNat, Option.map_some, String.ofList_toList]

end Resilience.Json.Token
