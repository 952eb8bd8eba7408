import Resilience.Json.Printer
import Resilience.Proofs.Text.Classes
import Resilience.Proofs.Text.Infix

/-!
# Texts in compact JSON

What stands where in the compact text of a JSON value: each member of an object, at any depth, as its
quoted key, a colon and its value (`HasMember.infix_compact`); and a label, which ends with a colon or an
equals sign and holds no punctuation, nowhere but in a key or a text (`mentions_of_label`).
-/

namespace Resilience

/-- There is no sign of an assignment in the text. -/
def Markless (s : String) : Prop := ∀ c ∈ s.toList, c ≠ '=' ∧ c ≠ ':'

instance (s : String) : Decidable (Markless s) :=
  List.decidableBAll _ s.toList

theorem Markless.append {s t : String} (hs : Markless s) (ht : Markless t) : Markless (s ++ t) := by
  intro c hc
  rw [String.toList_append] at hc
  exact (List.mem_append.1 hc).elim (hs c) (ht c)

theorem markless_ofList {cs : List Char} (h : ∀ c ∈ cs, c.isDigit) : Markless (String.ofList cs) := by
  intro c hc
  rw [String.toList_ofList] at hc
  have hdigit := h c hc
  constructor <;> rintro rfl <;> exact absurd hdigit (by decide)

theorem isDigit_toDigits (n : Nat) : ∀ c ∈ Nat.toDigits 10 n, c.isDigit :=
  fun _ hc => Nat.isDigit_of_mem_toDigits (by decide) (by decide) hc

theorem markless_repr (n : Nat) : Markless n.repr := markless_ofList (isDigit_toDigits n)

theorem Binary64.markless_layOut (digits : Nat) (step : Int) :
    Markless (layOut plain digits step) := by
  have hpart {cs : List Char} (h : cs.Sublist (Nat.toDigits 10 digits)) : Markless (String.ofList cs) :=
    markless_ofList fun c hc => isDigit_toDigits digits c (h.subset hc)
  have hzeros (n : Nat) : Markless (String.ofList (List.replicate n '0')) :=
    markless_ofList (by simp)
  have hexponent (top : Int) : Markless ((if top < 0 then "-" else plain.plus) ++ toString top.natAbs) := by
    refine Markless.append ?_ (markless_repr _)
    split <;> decide
  rw [layOut]
  dsimp only
  split
  · split
    · rw [String.ofList_append]
      exact ((hpart (List.Sublist.refl _)).append (hzeros _)).append (by decide)
    · split
      · exact ((hpart (List.take_sublist ..)).append (by decide)).append (hpart (List.drop_sublist ..))
      · exact (Markless.append (by decide) (hzeros _)).append (hpart (List.Sublist.refl _))
  · split
    · decide
    · next d hdigits =>
      rw [hdigits] at hpart
      exact ((hpart (List.Sublist.refl _)).append (by decide)).append (hexponent _)
    · next d rest _ hdigits =>
      rw [hdigits] at hpart
      have hrest := hpart (List.sublist_cons_self d rest)
      have hfirst := hpart (List.singleton_sublist.2 List.mem_cons_self)
      exact (((hfirst.append (by decide)).append hrest).append (by decide)).append (hexponent _)

theorem Number.markless_text (x : Number) : Markless x.text := by
  cases x with
  | int n =>
    rw [text, Int.toString_eq_repr, Int.repr_eq_if]
    split
    · exact markless_repr _
    · exact Markless.append (by decide) (markless_repr _)
  | float x =>
    have hsign : Markless (if x.negative then "-" else "") := by split <;> decide
    rw [text, Binary64.toText]
    split
    · decide
    · dsimp only
      split
      · exact hsign.append (by decide)
      · exact hsign.append (Binary64.markless_layOut _ _)

namespace Json

variable {v w : Json} {key s t : String} {ts : List String} {label word : List Char}

/-- An object has a member with this key and this value, in the value or within. -/
inductive HasMember : Json → String → Json → Prop
  | own {members : List (String × Json)} {key : String} {w : Json} (h : (key, w) ∈ members) :
    HasMember (.obj members) key w
  | member {members : List (String × Json)} {k key : String} {v w : Json} (hv : (k, v) ∈ members)
      (h : HasMember v key w) : HasMember (.obj members) key w
  | item {items : List Json} {key : String} {v w : Json} (hv : v ∈ items) (h : HasMember v key w) :
    HasMember (.arr items) key w

/-- A text is a key or a text in the value. -/
inductive Mentions : Json → String → Prop
  | text (s : String) : Mentions (.str s) s
  | key {members : List (String × Json)} {s : String} {v : Json} (h : (s, v) ∈ members) :
    Mentions (.obj members) s
  | member {members : List (String × Json)} {k s : String} {v : Json} (hv : (k, v) ∈ members)
      (h : Mentions v s) : Mentions (.obj members) s
  | item {items : List Json} {s : String} {v : Json} (hv : v ∈ items) (h : Mentions v s) :
    Mentions (.arr items) s

/-- A text as it is written between its quotes. -/
def escaped (s : String) : List Char := s.toList.flatMap escapeChar

theorem toList_quote (s : String) : (quote s).toList = '"' :: (escaped s ++ ['"']) := by
  simp [quote, escaped]

theorem escaped_of_isAlphanum (h : ∀ c ∈ s.toList, c.isAlphanum) : escaped s = s.toList := by
  have hchar : ∀ c ∈ s.toList, escapeChar c = [c] := by
    intro c hc
    have hrange := Text.isAlphanum_iff.1 (h c hc)
    have hne (d : Char) (hd : d.isAlphanum = false) : c ≠ d := by
      rintro rfl
      simp [h c hc] at hd
    rw [escapeChar, if_neg (hne '"' rfl), if_neg (hne '\\' rfl), if_neg (by omega), if_neg (by omega),
      if_neg (by omega), if_neg (by omega), if_neg (by omega), if_neg (by omega)]
  rw [escaped, List.flatMap_congr hchar, List.flatMap_singleton']

/-- No mark comes into a text by what stands for its characters. -/
theorem markless_escaped (h : Markless s) : ∀ c ∈ escaped s, c ≠ '=' ∧ c ≠ ':' := by
  have hhex : ∀ n < 16, hexDigit n ≠ '=' ∧ hexDigit n ≠ ':' := by decide
  have hchar (d : Char) (hd : d ≠ '=' ∧ d ≠ ':') : ∀ c ∈ escapeChar d, c ≠ '=' ∧ c ≠ ':' := by
    rw [escapeChar]
    split_ifs with hquote hslash hback htab hline hpage hreturn hcontrol
    · simp
    · simp
    · simp
    · simp
    · simp
    · simp
    · simp
    · simp only [List.forall_mem_cons]
      exact ⟨by decide, by decide, by decide, by decide, hhex _ (by omega), hhex _ (by omega), by simp⟩
    · simpa using hd
  intro c hc
  obtain ⟨d, hd, hc⟩ := List.mem_flatMap.1 hc
  exact hchar d (h d hd) c hc

/-! ## Commas and brackets -/

theorem toList_commas_cons (t : String) (hts : ts ≠ []) :
    (commas (t :: ts)).toList = t.toList ++ ',' :: (commas ts).toList := by
  obtain ⟨u, ts, rfl⟩ := List.exists_cons_of_ne_nil hts
  simp [commas, String.toList_intercalate]

theorem infix_commas (h : t ∈ ts) : t.toList <:+: (commas ts).toList := by
  induction ts with
  | nil => cases h
  | cons u ts ih =>
    by_cases hts : ts = []
    · obtain rfl : t = u := by simpa [hts] using h
      rw [hts]
      exact List.infix_refl _
    · rw [toList_commas_cons u hts]
      rcases List.mem_cons.1 h with rfl | h
      · exact (List.prefix_append _ _).isInfix
      · exact (ih h).trans ((List.suffix_cons ',' _).trans (List.suffix_append _ _)).isInfix

theorem exists_infix_of_commas (hne : word ≠ []) (hword : ',' ∉ word)
    (h : word <:+: (commas ts).toList) : ∃ t ∈ ts, word <:+: t.toList := by
  induction ts with
  | nil => exact absurd (List.infix_nil.1 h) hne
  | cons u ts ih =>
    by_cases hts : ts = []
    · subst hts
      exact ⟨u, List.mem_cons_self, h⟩
    · rw [toList_commas_cons u hts, Text.infix_append_cons_iff hword] at h
      rcases h with h | h
      · exact ⟨u, List.mem_cons_self, h⟩
      · obtain ⟨t, ht, h⟩ := ih h
        exact ⟨t, List.mem_cons_of_mem _ ht, h⟩

theorem toList_compact_arr (items : List Json) : (compact (.arr items)).toList =
    '[' :: ((commas (items.map compact)).toList ++ [']']) := by
  simp [compact, compactItems_eq]

theorem toList_compact_obj (members : List (String × Json)) : (compact (.obj members)).toList =
    '\x7b' :: ((commas (members.map fun (k, v) => quote k ++ ":" ++ compact v)).toList ++ ['\x7d']) := by
  simp [compact, compactMembers_eq]

/-- Nothing comes into a word from what it is enclosed by. -/
theorem infix_enclosed_iff {l r : Char} {cs : List Char} (hne : word ≠ []) (hl : l ∉ word) (hr : r ∉ word) :
    word <:+: l :: (cs ++ [r]) ↔ word <:+: cs := by
  rw [← List.nil_append (l :: _), Text.infix_append_cons_iff hl, Text.infix_append_cons_iff hr]
  simp [hne]

/-! ## Members -/

theorem infix_compact_arr {items : List Json} (hv : v ∈ items) :
    v.compact.toList <:+: (compact (.arr items)).toList := by
  rw [toList_compact_arr]
  exact (infix_commas (List.mem_map_of_mem hv)).trans ⟨['['], [']'], rfl⟩

theorem infix_compact_obj {members : List (String × Json)} (hv : (key, v) ∈ members) :
    (quote key ++ ":" ++ v.compact).toList <:+: (compact (.obj members)).toList := by
  have hentry : quote key ++ ":" ++ v.compact ∈ members.map fun (k, v) => quote k ++ ":" ++ v.compact :=
    List.mem_map.2 ⟨(key, v), hv, rfl⟩
  rw [toList_compact_obj]
  exact (infix_commas hentry).trans ⟨['\x7b'], ['\x7d'], rfl⟩

theorem HasMember.infix_compact (h : HasMember v key w) :
    (quote key ++ ":" ++ w.compact).toList <:+: v.compact.toList := by
  induction h with
  | own h => exact infix_compact_obj h
  | member hv _ ih =>
    refine ih.trans (List.IsInfix.trans ?_ (infix_compact_obj hv))
    rw [String.toList_append]
    exact (List.suffix_append _ _).isInfix
  | item hv _ ih => exact ih.trans (infix_compact_arr hv)

/-! ## Labels -/

/-- A word that ends with a mark and does not begin with a colon, without punctuation. -/
structure IsLabel (label : List Char) : Prop where
  not_punctuation : ∀ c ∈ ['"', ',', '[', ']', '\x7b', '\x7d'], c ∉ label
  head : ∃ c ∈ label.head?, c ≠ ':'
  last : ∃ c ∈ label, c = '=' ∨ c = ':'

namespace IsLabel

theorem ne_nil (h : IsLabel label) : label ≠ [] := by
  rintro rfl
  obtain ⟨c, hc, _⟩ := h.head
  cases hc

theorem not_infix (h : IsLabel label) (hs : Markless s) : ¬ label <:+: s.toList := by
  intro hin
  obtain ⟨c, hc, hmark⟩ := h.last
  have hne := hs c (hin.subset hc)
  exact hmark.elim hne.1 hne.2

/-- A label stands in the key of a member or in its value, never in between. -/
theorem infix_member (h : IsLabel label) (hin : label <:+: (quote key ++ ":" ++ v.compact).toList) :
    label <:+: escaped key ∨ label <:+: v.compact.toList := by
  have hquote := h.not_punctuation '"' (by decide)
  have hparts : (quote key ++ ":" ++ v.compact).toList =
      [] ++ '"' :: (escaped key ++ '"' :: ([':'] ++ v.compact.toList)) := by
    simp [toList_quote]
  rw [hparts, Text.infix_append_cons_iff hquote, Text.infix_append_cons_iff hquote] at hin
  rcases hin with hin | hin | hin
  · exact absurd (List.infix_nil.1 hin) h.ne_nil
  · exact .inl hin
  · right
    obtain ⟨c, hc, hne⟩ := h.head
    obtain ⟨rest, rfl⟩ := List.head?_eq_some_iff.1 hc
    exact Text.infix_of_infix_append_left hin (by simpa using hne)

end IsLabel

/-- By recursion on the value, of which the label is in a part. -/
theorem mentions_of_label (hlabel : IsLabel label) (v : Json) (h : label <:+: v.compact.toList) :
    ∃ s, Mentions v s ∧ label <:+: escaped s := by
  have hnot (c : Char) (hc : c ∈ ['"', ',', '[', ']', '\x7b', '\x7d']) := hlabel.not_punctuation c hc
  match v, h with
  | .null, h => exact absurd h (hlabel.not_infix (by decide))
  | .bool true, h => exact absurd h (hlabel.not_infix (by decide))
  | .bool false, h => exact absurd h (hlabel.not_infix (by decide))
  | .num x, h => exact absurd h (hlabel.not_infix x.markless_text)
  | .str s, h =>
    rw [compact, toList_quote,
      infix_enclosed_iff hlabel.ne_nil (hnot '"' (by decide)) (hnot '"' (by decide))] at h
    exact ⟨s, .text s, h⟩
  | .arr items, h =>
    rw [toList_compact_arr,
      infix_enclosed_iff hlabel.ne_nil (hnot '[' (by decide)) (hnot ']' (by decide))] at h
    obtain ⟨t, ht, h⟩ := exists_infix_of_commas hlabel.ne_nil (hnot ',' (by decide)) h
    obtain ⟨w, hw, rfl⟩ := List.mem_map.1 ht
    have := List.sizeOf_lt_of_mem hw
    obtain ⟨s, hs, h⟩ := mentions_of_label hlabel w h
    exact ⟨s, .item hw hs, h⟩
  | .obj members, h =>
    rw [toList_compact_obj,
      infix_enclosed_iff hlabel.ne_nil (hnot '\x7b' (by decide)) (hnot '\x7d' (by decide))] at h
    obtain ⟨t, ht, h⟩ := exists_infix_of_commas hlabel.ne_nil (hnot ',' (by decide)) h
    obtain ⟨⟨key, w⟩, hw, rfl⟩ := List.mem_map.1 ht
    have hlt : sizeOf w < sizeOf members := by
      have := List.sizeOf_lt_of_mem hw
      simp only [Prod.mk.sizeOf_spec] at this
      omega
    rcases hlabel.infix_member h with h | h
    · exact ⟨key, .key hw, h⟩
    · obtain ⟨s, hs, h⟩ := mentions_of_label hlabel w h
      exact ⟨s, .member hw hs, h⟩
termination_by sizeOf v

end Json

end Resilience
