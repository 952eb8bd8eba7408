import Resilience.Proofs.Friendly.Plain
import Resilience.Proofs.Friendly.Stripping
import Resilience.Proofs.Text.Runs

/-!
# Paths word by word

A path ends before a delimiter and none can be made across one, so a text is reduced piece by piece
where it is cut at a delimiter (`stripChars_append`), and everything else follows from this equation:
the delimiters of a text stay, and each word between them is shown as it is shown alone
(`stripPaths_words`). Within a word a family takes away all from its first path on
(`Family.First.strip_eq`), so what stands in front of the first path of a word stays too
(`isCut_stripChars`).
-/

namespace Resilience.Scrub

/-! ## Cuts at delimiters -/

theorem inPath_of_head? {b : List Char} (hb : ∀ d ∈ b.head?, isDelimiter d) :
    ∀ d ∈ b.head?, inPath d = false := by
  intro d hd
  simp [inPath, hb d hd]

/-- What is tested does not go beyond a delimiter. -/
theorem beginsWith_append_delimiter {ps : List (Char → Bool)} {a b : List Char}
    (hps : ∀ p ∈ ps, ∀ c, p c → inPath c) (hb : ∀ d ∈ b.head?, isDelimiter d) :
    beginsWith ps (a ++ b) = beginsWith ps a := by
  induction ps generalizing a with
  | nil => simp [beginsWith]
  | cons p ps ih =>
    cases a with
    | nil =>
      cases b with
      | nil => rfl
      | cons d b =>
        have hd : p d = false := by
          refine Bool.eq_false_iff.2 fun hpd => ?_
          simpa [inPath, hb d rfl] using hps p List.mem_cons_self d hpd
        simp [beginsWith, hd]
    | cons c a => simp [beginsWith, ih fun q hq => hps q (List.mem_cons_of_mem _ hq)]

namespace Family

variable {f : Family} {a b : List Char}

theorem begins_append_delimiter (hb : ∀ d ∈ b.head?, isDelimiter d) :
    f.Begins (a ++ b) ↔ f.Begins a := by
  refine exists_congr fun head => and_congr_right fun hhead => ?_
  rw [beginsWith_append_delimiter _ hb]
  intro p hp c hc
  rcases List.mem_append.1 hp with hp | hp
  · exact (f.isHead head hhead).inPath p hp c hc
  · rwa [← List.mem_singleton.1 hp]

theorem strip_append (hb : ∀ d ∈ b.head?, isDelimiter d) :
    f.strip (a ++ b) = f.strip a ++ f.strip b := by
  induction a using strip_induction f with
  | nil => simp
  | path a hbegins ih =>
    have hpath := inPath_of_head? hb
    rw [strip_of_begins ((begins_append_delimiter hb).2 hbegins), Text.takeWhile_append_of_head? hpath,
      Text.dropWhile_append_of_head? hpath, ih, strip_of_begins hbegins, List.append_assoc]
  | char c a hbegins ih =>
    have hnot : ¬ f.Begins (c :: (a ++ b)) := fun h => hbegins ((begins_append_delimiter hb).1 h)
    rw [List.cons_append, strip_of_not_begins hnot, ih, strip_of_not_begins hbegins,
      List.cons_append]

theorem head?_strip (hb : ∀ d ∈ b.head?, isDelimiter d) :
    ∀ d ∈ (f.strip b).head?, isDelimiter d := by
  cases b with
  | nil => simp
  | cons d b =>
    have hd : ¬ f.Begins (d :: b) := fun h => by simpa [inPath, hb d rfl] using h.inPath
    rw [strip_of_not_begins hd]
    exact hb

end Family

theorem stripChars_nil : stripChars [] = [] := by
  simp only [stripChars, Family.strip_nil]

theorem stripChars_append {a b : List Char} (hb : ∀ d ∈ b.head?, isDelimiter d) :
    stripChars (a ++ b) = stripChars a ++ stripChars b := by
  have htemporary := Family.head?_strip (f := temporary) hb
  rw [stripChars, Family.strip_append hb, Family.strip_append htemporary,
    Family.strip_append (Family.head?_strip htemporary)]
  rfl

theorem stripChars_delimiter {d : Char} (hd : isDelimiter d) (cs : List Char) :
    stripChars (d :: cs) = d :: stripChars cs := by
  have hskip (f : Family) (cs : List Char) : f.strip (d :: cs) = d :: f.strip cs :=
    Family.strip_of_not_begins fun h => by simpa [inPath, hd] using h.inPath
  simp only [stripChars, hskip]

theorem stripChars_append_cons {d : Char} (hd : isDelimiter d) (a b : List Char) :
    stripChars (a ++ d :: b) = stripChars a ++ d :: stripChars b := by
  rw [stripChars_append (by simpa using hd), stripChars_delimiter hd]

/-- Whether a word of its own can stand between two texts. -/
structure Around (before after : List Char) : Prop where
  getLast? : ∀ d ∈ before.getLast?, isDelimiter d
  head? : ∀ d ∈ after.head?, isDelimiter d

theorem Around.of_all {before after : List Char} (hbefore : before.getLast?.all isDelimiter)
    (hafter : after.head?.all isDelimiter) : Around before after :=
  ⟨(Option.all_eq_true ..).1 hbefore, (Option.all_eq_true ..).1 hafter⟩

theorem Around.stripChars_eq {before after : List Char} (h : Around before after) (w : List Char) :
    stripChars (before ++ w ++ after) = stripChars before ++ stripChars w ++ stripChars after := by
  rw [stripChars_append h.head?]
  rcases List.eq_nil_or_concat before with rfl | ⟨front, d, rfl⟩
  · simp [stripChars_nil]
  · have hd : isDelimiter d := h.getLast? d (by simp)
    rw [List.concat_eq_append, List.append_assoc front, List.singleton_append,
      stripChars_append_cons hd, stripChars_append_cons hd, stripChars_nil]
    simp

/-! ## Words -/

theorem mem_of_mem_runs {isBreak : Char → Bool} {cs run : List Char}
    (h : run ∈ Text.runs isBreak cs) : ∀ c ∈ run, c ∈ cs := by
  intro c hc
  have hne : run ≠ [] := List.ne_nil_of_mem hc
  have hwithin := (Text.infix_iff_runs hne (Text.isBreak_of_mem_runs h)).2 ⟨run, h, List.infix_refl run⟩
  exact hwithin.subset hc

theorem isPrefix_trimTail (path : List Char) : trimTail path <+: path := by
  rw [← List.reverse_suffix, trimTail, List.reverse_reverse]
  exact List.dropWhile_suffix isTail

theorem mem_trimTail {path : List Char} {c : Char} (h : c ∈ trimTail path) : c ∈ path :=
  (isPrefix_trimTail path).subset h

/-- All that comes in is a tilde. -/
theorem mem_reduce {depth : Nat} {path : List Char} {c : Char} (h : c ∈ reduce depth path) :
    c ∈ path ∨ c = '~' := by
  have hlast : c ∈ (names (trimTail path)).getLastD ['~'] → c ∈ path ∨ c = '~' := by
    intro hc
    rw [List.getLastD_eq_getLast?] at hc
    cases hname : (names (trimTail path)).getLast? with
    | none =>
      rw [hname] at hc
      exact .inr (List.mem_singleton.1 hc)
    | some name =>
      rw [hname] at hc
      have hmem := (List.mem_filter.1 (List.mem_of_getLast? hname)).1
      exact .inl (mem_trimTail (mem_of_mem_runs hmem c hc))
  rw [reduce] at h
  rcases List.mem_append.1 h with h | h
  · split at h
    · exact hlast h
    · exact .inr (List.mem_singleton.1 h)
  · exact .inl (List.mem_of_mem_drop h)

theorem Family.mem_strip {f : Family} {cs : List Char} {c : Char} (h : c ∈ f.strip cs) :
    c ∈ cs ∨ c = '~' := by
  induction cs using strip_induction f with
  | nil => simp at h
  | path cs hbegins ih =>
    rw [strip_of_begins hbegins] at h
    rcases List.mem_append.1 h with h | h
    · exact (mem_reduce h).imp_left fun hc => (List.takeWhile_prefix inPath).subset hc
    · exact (ih h).imp_left fun hc => (List.dropWhile_suffix inPath).subset hc
  | char d cs hbegins ih =>
    rw [strip_of_not_begins hbegins] at h
    rcases List.mem_cons.1 h with rfl | h
    · exact .inl List.mem_cons_self
    · exact (ih h).imp_left (List.mem_cons_of_mem d)

/-- A word stays a word. -/
theorem Family.inPath_strip {f : Family} {w : List Char} (hw : ∀ c ∈ w, inPath c) :
    ∀ c ∈ f.strip w, inPath c := by
  intro c hc
  rcases mem_strip hc with hc | rfl
  · exact hw c hc
  · rfl

theorem inPath_stripChars {w : List Char} (hw : ∀ c ∈ w, inPath c) :
    ∀ c ∈ stripChars w, inPath c :=
  Family.inPath_strip (Family.inPath_strip (Family.inPath_strip hw))

theorem runs_of_inPath {w : List Char} (hw : ∀ c ∈ w, inPath c) :
    Text.runs isDelimiter w = [w] :=
  Text.runs_eq_singleton fun c hc => by simpa [inPath] using hw c hc

/-- To prove something of a text, prove it of a word, and of a word with a delimiter in front of a text
that it holds of. -/
theorem word_induction {motive : List Char → Prop}
    (word : ∀ w, (∀ c ∈ w, inPath c) → motive w)
    (cut : ∀ w d cs, (∀ c ∈ w, inPath c) → isDelimiter d → motive cs → motive (w ++ d :: cs))
    (cs : List Char) : motive cs := by
  induction cs using Text.run_induction isDelimiter with
  | step w rest hw ih =>
    have hpath : ∀ c ∈ w, inPath c := fun c hc => by simp [inPath, hw.run c hc]
    cases rest with
    | nil =>
      rw [List.append_nil]
      exact word w hpath
    | cons d cs => exact cut w d cs hpath (hw.behind d rfl) (ih d cs rfl)

theorem runs_stripChars (cs : List Char) :
    Text.runs isDelimiter (stripChars cs) = (Text.runs isDelimiter cs).map stripChars := by
  induction cs using word_induction with
  | word w hw => rw [runs_of_inPath hw, runs_of_inPath (inPath_stripChars hw), List.map_singleton]
  | cut w d cs hw hd ih =>
    rw [stripChars_append_cons hd, Text.runs_append_cons hd, Text.runs_append_cons hd, ih,
      runs_of_inPath hw, runs_of_inPath (inPath_stripChars hw), List.map_append, List.map_singleton]

theorem filter_of_inPath {w : List Char} (hw : ∀ c ∈ w, inPath c) : w.filter isDelimiter = [] := by
  rw [List.filter_eq_nil_iff]
  intro c hc
  simpa [inPath] using hw c hc

theorem filter_stripChars (cs : List Char) :
    (stripChars cs).filter isDelimiter = cs.filter isDelimiter := by
  induction cs using word_induction with
  | word w hw => rw [filter_of_inPath hw, filter_of_inPath (inPath_stripChars hw)]
  | cut w d cs hw hd ih =>
    rw [stripChars_append_cons hd, List.filter_append, List.filter_append,
      List.filter_cons_of_pos hd, List.filter_cons_of_pos hd, ih, filter_of_inPath hw,
      filter_of_inPath (inPath_stripChars hw)]

/-! ## The first path of a word -/

/-- Whether the first path of the family in a word, `front ++ path`, is `path`. -/
structure Family.First (f : Family) (front path : List Char) : Prop where
  begins : f.Begins path
  suffix : ∀ ys, ys <:+ front ++ path → f.Begins ys → ys <:+ path

namespace Family

variable {f : Family} {front path : List Char}

theorem absent_or_first (f : Family) (w : List Char) :
    f.Absent w ∨ ∃ front path, w = front ++ path ∧ f.First front path := by
  induction w with
  | nil =>
    refine .inl fun ys hys h => ?_
    rw [List.suffix_nil.1 hys] at h
    exact not_begins_nil h
  | cons c w ih =>
    by_cases hbegins : f.Begins (c :: w)
    · exact .inr ⟨[], c :: w, rfl, hbegins, fun ys hys _ => hys⟩
    · rcases ih with habsent | ⟨front, path, rfl, hfirst⟩
      · refine .inl fun ys hys h => ?_
        rcases List.suffix_cons_iff.1 hys with rfl | hys
        · exact hbegins h
        · exact habsent ys hys h
      · refine .inr ⟨c :: front, path, rfl, hfirst.begins, fun ys hys h => ?_⟩
        rcases List.suffix_cons_iff.1 hys with rfl | hys
        · exact absurd h hbegins
        · exact hfirst.suffix ys hys h

theorem First.tail {c : Char} (h : f.First (c :: front) path) : f.First front path :=
  ⟨h.begins, fun ys hys => h.suffix ys (hys.trans (List.suffix_cons ..))⟩

/-- None begins in front of the first one. -/
theorem First.not_begins {s : List Char} (h : f.First front path) (hs : s <:+ front) (hne : s ≠ []) :
    ¬ f.Begins (s ++ path) := by
  intro hbegins
  have hsuffix : s ++ path <:+ front ++ path := List.suffix_append_self_iff.2 hs
  have hle := (h.suffix _ hsuffix hbegins).length_le
  rw [List.length_append] at hle
  exact hne (List.length_eq_zero_iff.1 (by omega))

theorem Begins.strip_eq (h : f.Begins path) (hpath : ∀ c ∈ path, Scrub.inPath c) :
    f.strip path = reduce f.depth path := by
  rw [strip_of_begins h, List.takeWhile_eq_self_iff.2 hpath, List.dropWhile_eq_nil_iff.2 hpath,
    strip_nil, List.append_nil]

/-- A word is kept up to the first path, which goes on to its end. -/
theorem First.strip_eq (h : f.First front path) (hpath : ∀ c ∈ path, inPath c) :
    f.strip (front ++ path) = front ++ reduce f.depth path := by
  induction front with
  | nil => exact h.begins.strip_eq hpath
  | cons c front ih =>
    have hnot : ¬ f.Begins (c :: (front ++ path)) :=
      h.not_begins (List.suffix_refl _) (List.cons_ne_nil c front)
    rw [List.cons_append, strip_of_not_begins hnot, ih h.tail, List.cons_append]

end Family

/-- Tests that end with one for a separator end before a name does, so what they say of a text does
not hang on the name. -/
theorem beginsWith_replace {ps : List (Char → Bool)} {s name path : List Char}
    (hps : ∀ p ∈ ps, ∀ c, p c → inPath c) (hlast : ∀ p ∈ ps.getLast?, ∀ c, p c → isSeparator c)
    (hname : ∀ c ∈ name, isSeparator c = false) (hpath : beginsWith [inPath] path)
    (h : beginsWith (ps ++ [inPath]) (s ++ name)) : beginsWith (ps ++ [inPath]) (s ++ path) := by
  induction s generalizing ps with
  | nil =>
    cases ps with
    | nil => exact hpath
    | cons p ps =>
      have hend : ∀ d ∈ ([] : List Char).head?, isDelimiter d := by simp
      rw [beginsWith_append, Bool.and_eq_true] at h
      have hnot := not_beginsWith_of_not_isSeparator (List.cons_ne_nil p ps) hps hlast hname hend
      rw [List.append_nil] at hnot
      exact absurd h.1 hnot
  | cons c s ih =>
    cases ps with
    | nil => simpa [beginsWith] using h
    | cons p ps =>
      simp only [List.cons_append, beginsWith, Bool.and_eq_true] at h ⊢
      refine ⟨h.1, ih (fun q hq => hps q (List.mem_cons_of_mem _ hq)) (fun q hq => ?_) h.2⟩
      cases ps with
      | nil => cases hq
      | cons r ps => exact hlast q (by simpa using hq)

theorem Family.Begins.replace {f : Family} {s name path : List Char} (h : f.Begins (s ++ name))
    (hname : ∀ c ∈ name, isSeparator c = false) (hpath : beginsWith [Scrub.inPath] path) :
    f.Begins (s ++ path) := by
  obtain ⟨head, hhead, h⟩ := h
  have hok := f.isHead head hhead
  exact ⟨head, hhead, beginsWith_replace hok.inPath hok.separator_of_last hname hpath h⟩

theorem Family.Begins.head_inPath {f : Family} {path : List Char} (h : f.Begins path) :
    beginsWith [Scrub.inPath] path := by
  cases path with
  | nil => exact absurd h not_begins_nil
  | cons c path => simpa [beginsWith] using h.inPath

/-! ## What is shown of a word -/

/-- Whether one of the patterns matches a path as a whole. -/
def IsPath (path : List Char) : Prop := ∃ p ∈ pathPatterns, ∀ before rest, p.Matches before path rest

theorem Family.Begins.isPath {f : Family} {path : List Char} (h : f.Begins path)
    (hf : f ∈ [home, temporary, drive]) (hpath : ∀ c ∈ path, Scrub.inPath c) : IsPath path := by
  obtain ⟨u, v, rest, rfl, hu, hv, hin⟩ := Family.begins_iff.1 h
  have hspelled {p : Text.Pattern} (hp : p ∈ pathPatterns) (hspells : Spells p f) :
      IsPath (u ++ (v ++ rest)) := by
    refine ⟨p, hp, fun before after => (hspells before _ after).2 ⟨u, v ++ rest, rfl, hu, ?_, ?_⟩⟩
    · simp [hv]
    · exact (List.forall_mem_append.1 hpath).2
  simp only [List.mem_cons, List.not_mem_nil, or_false] at hf
  rcases hf with rfl | rfl | rfl
  · exact hspelled (by simp [pathPatterns]) spells_homePath
  · exact hspelled (by simp [pathPatterns]) spells_temporaryPath
  · exact hspelled (by simp [pathPatterns]) spells_drivePath

/-- Whether a text is a word as it was, or with a name in place of a path at its end. -/
inductive IsCut (w : List Char) : List Char → Prop where
  | same : IsCut w w
  | cut {front path name : List Char} : w = front ++ path → IsPath path → beginsWith [inPath] path →
    (∀ c ∈ name, isSeparator c = false) → IsCut w (front ++ name)

theorem IsCut.strip {f : Family} {w s : List Char} (hf : f ∈ [home, temporary, drive])
    (hw : ∀ c ∈ w, inPath c) (h : IsCut w s) (hs : ∀ c ∈ s, inPath c) : IsCut w (f.strip s) := by
  rcases f.absent_or_first s with habsent | ⟨front, path, rfl, hfirst⟩
  · rwa [habsent.strip_eq]
  rw [hfirst.strip_eq (List.forall_mem_append.1 hs).2]
  have hcut {rest : List Char} (hrest : w = front ++ rest) (hbegins : f.Begins rest) :
      IsCut w (front ++ reduce f.depth path) :=
    .cut hrest (hbegins.isPath hf (List.forall_mem_append.1 (hrest ▸ hw)).2) hbegins.head_inPath
      isSeparator_of_mem_reduce
  generalize hs' : front ++ path = s' at h
  cases h with
  | same => exact hcut hs'.symm hfirst.begins
  | @cut front' path' name hw' _ hhead hname =>
    -- The path cannot begin in the name, so it begins in what the word had in front of it.
    rcases List.append_eq_append_iff.1 hs' with ⟨gap, rfl, rfl⟩ | ⟨gap, rfl, rfl⟩
    · exact hcut (hw'.trans (List.append_assoc ..)) (hfirst.begins.replace hname hhead)
    · have hseparator := (List.forall_mem_append.1 hname).2
      exact absurd hfirst.begins (Family.not_begins_of_no_separator hseparator)

theorem isCut_stripChars {w : List Char} (hw : ∀ c ∈ w, inPath c) : IsCut w (stripChars w) := by
  have htemporary := IsCut.same.strip (f := temporary) (by simp) hw hw
  have hhome := htemporary.strip (f := home) (by simp) hw (Family.inPath_strip hw)
  exact hhome.strip (f := drive) (by simp) hw (Family.inPath_strip (Family.inPath_strip hw))

/-- The words of a text, from one delimiter to the next. -/
def words (text : String) : List String := (Text.runs isDelimiter text.toList).map String.ofList

def delimiters (text : String) : List Char := text.toList.filter isDelimiter

theorem toList_stripPaths (text : String) : (stripPaths text).toList = stripChars text.toList :=
  String.toList_ofList

theorem stripPaths_ofList (cs : List Char) :
    stripPaths (String.ofList cs) = String.ofList (stripChars cs) := by
  rw [stripPaths, String.toList_ofList]

theorem words_stripPaths (text : String) : words (stripPaths text) = (words text).map stripPaths := by
  rw [words, words, toList_stripPaths, runs_stripChars, List.map_map, List.map_map]
  exact List.map_congr_left fun run _ => (stripPaths_ofList run).symm

theorem delimiters_stripPaths (text : String) : delimiters (stripPaths text) = delimiters text := by
  rw [delimiters, toList_stripPaths, filter_stripChars, delimiters]

theorem Around.stripPaths_eq {a b : String} (h : Around a.toList b.toList) (w : String) :
    stripPaths (a ++ w ++ b) = stripPaths a ++ stripPaths w ++ stripPaths b := by
  simp only [stripPaths, String.toList_append, h.stripChars_eq, String.ofList_append]

/-- In a word either nothing changes, or what stands in front of a path stays and the path, which is
the rest of the word, becomes a name. -/
theorem stripPaths_word {text word : String} (h : word ∈ words text) : stripPaths word = word ∨
    ∃ front path name, word = front ++ path ∧ IsPath path.toList ∧ stripPaths word = front ++ name ∧
      ∀ c ∈ name.toList, isSeparator c = false := by
  obtain ⟨run, hrun, rfl⟩ := List.mem_map.1 h
  have hword : ∀ c ∈ run, inPath c := fun c hc => by simp [inPath, Text.isBreak_of_mem_runs hrun c hc]
  have hcut := isCut_stripChars hword
  rw [stripPaths_ofList]
  generalize stripChars run = shown at hcut
  cases hcut with
  | same => exact .inl rfl
  | @cut front path name hrun hpath _ hname =>
    refine .inr ⟨String.ofList front, String.ofList path, String.ofList name, ?_, ?_, ?_, ?_⟩
    · rw [hrun, String.ofList_append]
    · rwa [String.toList_ofList]
    · rw [String.ofList_append]
    · rwa [String.toList_ofList]

/-- Paths are reduced word by word: a text that is cut at a delimiter is reduced piece by piece, and a
word is shown as it would be shown alone. The delimiters stay, in each word what is no path stays,
and a text without a path stays as it is. -/
theorem stripPaths_words :
    (∀ (a b : String) (d : Char), isDelimiter d →
      stripPaths (a ++ String.singleton d ++ b) = stripPaths a ++ String.singleton d ++ stripPaths b) ∧
    (∀ a word b : String, Around a.toList b.toList →
      stripPaths (a ++ word ++ b) = stripPaths a ++ stripPaths word ++ stripPaths b) ∧
    (∀ text, words (stripPaths text) = (words text).map stripPaths ∧
      delimiters (stripPaths text) = delimiters text) ∧
    (∀ text, ∀ word ∈ words text, stripPaths word = word ∨
      ∃ front path name, word = front ++ path ∧ IsPath path.toList ∧
        stripPaths word = front ++ name ∧ ∀ c ∈ name.toList, isSeparator c = false) ∧
    ∀ text, Pathless text → stripPaths text = text := by
  refine ⟨fun a b d hd => ?_, fun a word b h => h.stripPaths_eq word, fun text => ?_,
    fun text word h => stripPaths_word h, fun text h => stripPaths_eq_self_iff.2 h⟩
  · have hcut := stripChars_append_cons hd a.toList b.toList
    simp only [stripPaths, String.toList_append, String.toList_singleton, List.append_assoc,
      List.singleton_append, hcut, String.ofList_append]
    rw [← List.singleton_append, String.ofList_append, String.append_assoc]
    rfl
  · exact ⟨words_stripPaths text, delimiters_stripPaths text⟩

end Resilience.Scrub
