import Resilience.Proofs.Friendly.BaseNames

/-!
# What is shown of a home directory

A home directory that begins a word, or comes behind a colon in a word with no path before it, is
hidden. Behind a path it is not: that path goes on to the end of the word, and the name of the user is
taken for its base name (`stripPaths_homeDirectory`).
-/

namespace Resilience.Scrub

/-! ## Behind a colon -/

section

variable {f : Family} {front path s t x name root user : List Char}

/-- A text that is empty or ends in a colon. -/
def EndsInColon (t : List Char) : Prop := ∀ c ∈ t.getLast?, c = ':'

theorem endsInColon_nil : EndsInColon [] := by
  intro c hc
  cases hc

theorem endsInColon_concat (t : List Char) : EndsInColon (t ++ [':']) := by
  intro c hc
  simpa [eq_comm] using hc

theorem EndsInColon.suffix (h : EndsInColon t) (hs : s <:+ t) (hne : s ≠ []) :
    ∃ before, s = before ++ [':'] := by
  obtain ⟨l, rfl⟩ := hs
  obtain ⟨before, c, rfl⟩ := List.eq_nil_or_concat s |>.resolve_left hne
  obtain rfl : c = ':' := h c (by simp)
  exact ⟨before, List.concat_eq_append⟩

/-- No test passes a colon. -/
def Family.Colonless (f : Family) : Prop := ∀ head ∈ f.heads, ∀ p ∈ head, p ':' = false

theorem colonless_temporary : temporary.Colonless := by
  unfold Family.Colonless
  decide

theorem colonless_home : home.Colonless := by
  unfold Family.Colonless
  decide

theorem beginsWith_colon {ps : List (Char → Bool)} (hps : ∀ p ∈ ps, p ':' = false)
    (h : beginsWith (ps ++ [inPath]) (s ++ ':' :: x)) : beginsWith (ps ++ [inPath]) (s ++ [':']) := by
  induction ps generalizing s with
  | nil => cases s <;> simpa [beginsWith] using h
  | cons p ps ih =>
    cases s with
    | nil => simp [beginsWith, hps p List.mem_cons_self] at h
    | cons c s =>
      simp only [List.cons_append, beginsWith, Bool.and_eq_true] at h ⊢
      exact ⟨h.1, ih (fun q hq => hps q (List.mem_cons_of_mem p hq)) h.2⟩

namespace Family

/-- What begins in front of a colon does not reach beyond it. -/
theorem Begins.of_append (hf : f.Colonless) (ht : EndsInColon t) (hs : s <:+ t) (hne : s ≠ [])
    (h : f.Begins (s ++ x)) : f.Begins s := by
  obtain ⟨before, rfl⟩ := ht.suffix hs hne
  obtain ⟨head, hhead, h⟩ := h
  rw [List.append_assoc] at h
  exact ⟨head, hhead, beginsWith_colon (hf head hhead) h⟩

theorem Begins.append (h : f.Begins s) (x : List Char) : f.Begins (s ++ x) := by
  obtain ⟨u, v, rest, rfl, hu, hv, hin⟩ := begins_iff.1 h
  exact begins_iff.2 ⟨u, v, rest ++ x, by simp, hu, hv, hin⟩

theorem absent_of_no_separator (h : ∀ c ∈ name, isSeparator c = false) : f.Absent name :=
  f.strip_eq_self h ▸ f.absent_strip name

theorem Absent.append (hf : f.Colonless) (ht : EndsInColon t) (h : f.Absent t) (hx : f.Absent x) :
    f.Absent (t ++ x) := by
  intro ys hys hbegins
  rcases Text.suffix_append_cases hys with hys | ⟨s, hs, hne, rfl⟩
  · exact hx ys hys hbegins
  · exact h s hs (hbegins.of_append hf ht hs hne)

theorem First.append (hf : f.Colonless) (ht : EndsInColon (front ++ path)) (h : f.First front path)
    (x : List Char) : f.First front (path ++ x) := by
  refine ⟨h.begins.append x, fun ys hys hbegins => ?_⟩
  rcases Text.suffix_append_cases hys with hys | ⟨s, hs, hne, rfl⟩
  · exact hys
  · have hsuffix : s ++ path <:+ front ++ path := List.suffix_append_self_iff.2 hs
    rw [← List.append_assoc] at hbegins
    have hfront := hbegins.of_append hf ht hsuffix (List.append_ne_nil_of_left_ne_nil hne path)
    exact absurd hfront (h.not_begins hs hne)

/-- No path comes in where a name is put in place of the end of a word. -/
theorem Absent.replace (h : f.Absent (front ++ path)) (hpath : beginsWith [Scrub.inPath] path)
    (hname : ∀ c ∈ name, isSeparator c = false) : f.Absent (front ++ name) := by
  intro ys hys hbegins
  rcases Text.suffix_append_cases hys with hys | ⟨s, hs, _, rfl⟩
  · exact absent_of_no_separator hname ys hys hbegins
  · exact h (s ++ path) (List.suffix_append_self_iff.2 hs) (hbegins.replace hname hpath)

theorem First.absent (h : f.First front path) (hname : ∀ c ∈ name, isSeparator c = false) :
    f.Absent (front ++ name) := by
  intro ys hys hbegins
  rcases Text.suffix_append_cases hys with hys | ⟨s, hs, hne, rfl⟩
  · exact absent_of_no_separator hname ys hys hbegins
  · exact h.not_begins hs hne (hbegins.replace hname h.begins.head_inPath)

end Family

/-! ## A home directory at the end of a word -/

theorem absent_temporary_homeDirectory (hroot : root ∈ homeRoots) (huser : IsBaseName user) :
    temporary.Absent (pathOf [root, user]) := by
  have hns : ∀ n ∈ [root], IsName n := by simpa using isName_of_mem_homeRoots hroot
  have hnone : beforeTemporary [root] = none := by
    simp only [homeRoots, List.mem_cons, List.not_mem_nil, or_false] at hroot
    rcases hroot with rfl | rfl <;> decide
  have hstrip := strip_temporary_pathOf hns huser
  rw [hnone, Option.elim_none] at hstrip
  exact hstrip ▸ temporary.absent_strip _

theorem reduce_homeDirectory (root : List Char) (huser : IsBaseName user) (depth : Nat) (s : List Char) :
    reduce depth (s ++ pathOf [root, user]) =
      if depth ≤ (names (s ++ '/' :: root)).length then user else ['~'] := by
  have hsep : isSeparator '/' := rfl
  rw [← huser.reduce_eq depth hsep]
  simp

/-- With no path in front of it a home directory is hidden. -/
theorem strip_home_clear (ht : EndsInColon t) (habsent : home.Absent t)
    (hroot : root ∈ homeRoots) (huser : IsBaseName user) :
    home.strip (t ++ pathOf [root, user]) = t ++ ['~'] := by
  have hnames : ∀ n ∈ [root, user], IsName n := by
    simpa using ⟨isName_of_mem_homeRoots hroot, huser.isName⟩
  have hfirst : home.First t (pathOf [root, user]) := by
    refine ⟨begins_home_pathOf hroot huser.isName [], fun ys hys hbegins => ?_⟩
    rcases Text.suffix_append_cases hys with hys | ⟨s, hs, hne, rfl⟩
    · exact hys
    · exact absurd (hbegins.of_append colonless_home ht hs hne) (habsent s hs)
  have hreduce := reduce_homeDirectory root huser 2 []
  have hcount : names ('/' :: root) = [root] := by
    rw [← List.nil_append ('/' :: root), names_append_cons rfl,
      (isName_of_mem_homeRoots hroot).names_eq]
    rfl
  rw [List.nil_append, List.nil_append, hcount, if_neg (by simp)] at hreduce
  rw [hfirst.strip_eq (inPath_pathOf hnames)]
  exact congrArg (t ++ ·) hreduce

theorem names_append (hne : name ≠ []) (hname : ∀ c ∈ name, isSeparator c = false) (s : List Char) :
    ∃ ns last, names (s ++ name) = ns ++ [last ++ name] := by
  -- From the end: a character in front of the name is a separator or joins the name.
  induction s using List.reverseRecOn generalizing name with
  | nil =>
    refine ⟨[], [], ?_⟩
    rw [names, List.nil_append, Text.runs_eq_singleton hname]
    simp [hne]
  | append_singleton s c ih =>
    rw [← List.append_cons]
    cases hc : isSeparator c with
    | true =>
      refine ⟨names s, [], ?_⟩
      rw [names_append_cons hc, names, names, Text.runs_eq_singleton hname]
      simp [hne]
    | false =>
      obtain ⟨ns, last, h⟩ := ih (List.cons_ne_nil c name) (by simpa [hc] using hname)
      exact ⟨ns, last ++ [c], by simp [h]⟩

/-- A name at the end of a word is shown or hidden. -/
theorem Family.strip_append_name (f : Family) (hs : ∀ c ∈ s, Scrub.inPath c) (h : IsBaseName name) :
    ∃ r, f.strip (s ++ name) = r ++ name ∨ f.strip (s ++ name) = r ++ ['~'] := by
  rcases f.absent_or_first (s ++ name) with habsent | ⟨front, path, heq, hfirst⟩
  · exact ⟨s, .inl habsent.strip_eq⟩
  -- The path cannot begin within the name, so the name is its end.
  rcases List.append_eq_append_iff.1 heq with ⟨gap, _, hname⟩ | ⟨gap, rfl, rfl⟩
  · have hseparator := (List.forall_mem_append.1 (hname ▸ h.isName.not_isSeparator)).2
    exact absurd hfirst.begins (not_begins_of_no_separator hseparator)
  · have hpath : ∀ c ∈ gap ++ name, Scrub.inPath c :=
      List.forall_mem_append.2 ⟨(List.forall_mem_append.1 hs).2, h.isName.inPath⟩
    obtain ⟨ns, last, hnames⟩ := names_append h.isName.1 h.isName.not_isSeparator gap
    rw [heq, hfirst.strip_eq hpath, reduce, h.trimTail_eq, hnames]
    split
    · exact ⟨front ++ last, .inl (by simp)⟩
    · exact ⟨front, .inr (by simp)⟩

theorem stripChars_clear (ht : EndsInColon t) (hin : ∀ c ∈ t, inPath c)
    (htemporary : temporary.Absent t) (hhome : home.Absent t)
    (hroot : root ∈ homeRoots) (huser : IsBaseName user) :
    stripChars (t ++ pathOf [root, user]) = stripChars (t ++ ['~']) ∧
      ∃ r, stripChars (t ++ ['~']) = r ++ ['~'] := by
  have habsent {f : Family} (hf : f.Colonless) (h : f.Absent t) : f.strip (t ++ ['~']) = t ++ ['~'] :=
    (h.append hf ht (Family.absent_of_no_separator isBaseName_tilde.isName.not_isSeparator)).strip_eq
  have htilde : stripChars (t ++ ['~']) = drive.strip (t ++ ['~']) := by
    rw [stripChars, habsent colonless_temporary htemporary, habsent colonless_home hhome]
  have hdirectory := htemporary.append colonless_temporary ht
    (absent_temporary_homeDirectory hroot huser)
  obtain ⟨r, hr⟩ := drive.strip_append_name hin isBaseName_tilde
  refine ⟨?_, r, ?_⟩
  · rw [htilde, stripChars, hdirectory.strip_eq, strip_home_clear ht hhome hroot huser]
  · rw [htilde]
    exact hr.elim id id

/-- Behind a path the name of a home directory is taken for the base name. -/
theorem strip_behind {f : Family} (hf : f.Colonless) (ht : EndsInColon (front ++ path))
    (hin : ∀ c ∈ path, inPath c) (hfirst : f.First front path)
    (hdepth : f.depth ≤ (names path).length + 1)
    (hroot : root ∈ homeRoots) (huser : IsBaseName user) :
    f.strip (front ++ path ++ pathOf [root, user]) = front ++ user := by
  have hnames : ∀ n ∈ [root, user], IsName n := by
    simpa using ⟨isName_of_mem_homeRoots hroot, huser.isName⟩
  have hword : ∀ c ∈ path ++ pathOf [root, user], inPath c :=
    List.forall_mem_append.2 ⟨hin, inPath_pathOf hnames⟩
  have hcount : (names (path ++ '/' :: root)).length = (names path).length + 1 := by
    rw [names_append_cons rfl, (isName_of_mem_homeRoots hroot).names_eq, List.length_append,
      List.length_singleton]
  rw [List.append_assoc, (hfirst.append hf ht _).strip_eq hword, reduce_homeDirectory root huser, hcount,
    if_pos hdepth]

/-- What stays of a word in front of its first path: that of the first temporary path, or if there is
none, of the first path to a home directory. -/
inductive Front (t : List Char) : List Char → Prop where
  | temporary {front path : List Char} : t = front ++ path → temporary.First front path → Front t front
  | home {front path : List Char} : t = front ++ path → temporary.Absent t → home.First front path →
    Front t front

theorem clear_or_front (t : List Char) :
    temporary.Absent t ∧ home.Absent t ∨ ∃ front, Front t front := by
  rcases temporary.absent_or_first t with htemporary | ⟨front, path, ht, hfirst⟩
  · rcases home.absent_or_first t with hhome | ⟨front, path, ht, hfirst⟩
    · exact .inl ⟨htemporary, hhome⟩
    · exact .inr ⟨front, .home ht htemporary hfirst⟩
  · exact .inr ⟨front, .temporary ht hfirst⟩

theorem names_ne_nil_of_begins_home (h : home.Begins path) : names path ≠ [] := by
  obtain ⟨u, v, rest, rfl, hu, _⟩ := Family.begins_iff.1 h
  rcases isBeginning_home.1 hu with rfl | rfl
  · exact names_ne_nil (c := 'U') (by simp) rfl
  · exact names_ne_nil (c := 'h') (by simp) rfl

theorem stripChars_front (ht : EndsInColon t) (hin : ∀ c ∈ t, inPath c) (hfront : Front t front)
    (hroot : root ∈ homeRoots) (huser : IsBaseName user) :
    stripChars (t ++ pathOf [root, user]) = stripChars (front ++ user) := by
  have hseparator := huser.isName.not_isSeparator
  cases hfront with
  | @temporary path htext hfirst =>
    subst htext
    have hpath := (List.forall_mem_append.1 hin).2
    rw [stripChars, strip_behind colonless_temporary ht hpath hfirst (Nat.zero_le _) hroot huser,
      stripChars, (hfirst.absent hseparator).strip_eq]
  | @home path htext htemporary hfirst =>
    subst htext
    have hpath := (List.forall_mem_append.1 hin).2
    have hdepth : home.depth ≤ (names path).length + 1 := by
      have := List.length_pos_iff.2 (names_ne_nil_of_begins_home hfirst.begins)
      simp only [home]
      omega
    have hdirectory := htemporary.append colonless_temporary ht
      (absent_temporary_homeDirectory hroot huser)
    have hnone := htemporary.replace hfirst.begins.head_inPath hseparator
    rw [stripChars, hdirectory.strip_eq, strip_behind colonless_home ht hpath hfirst hdepth hroot huser,
      stripChars, hnone.strip_eq, (hfirst.absent hseparator).strip_eq]

/-- A home directory that stands at the end of a word, at its beginning or behind a colon, is hidden if
no temporary path and no path to a home directory begins in front of it: the text is shown as if a
tilde stood there. Otherwise it is shown as if the name of the user stood in place of all from the
first of these paths on, so the name is shown where nothing in front of them is a path. -/
theorem stripPaths_homeDirectory {a b : String} (hab : Around a.toList b.toList)
    (hin : ∀ c ∈ t, inPath c) (ht : EndsInColon t) (hroot : root ∈ homeRoots)
    (huser : IsBaseName user) :
    let text := a ++ String.ofList (t ++ pathOf [root, user]) ++ b
    (temporary.Absent t ∧ home.Absent t →
      stripPaths text = stripPaths (a ++ String.ofList (t ++ ['~']) ++ b) ∧
      ∃ r, stripPaths text = stripPaths a ++ String.ofList (r ++ ['~']) ++ stripPaths b) ∧
    (∀ front, Front t front →
      stripPaths text = stripPaths (a ++ String.ofList (front ++ user) ++ b) ∧
      (Pathless (String.ofList (front ++ user)) →
        stripPaths text = stripPaths a ++ String.ofList (front ++ user) ++ stripPaths b)) ∧
    (temporary.Absent t ∧ home.Absent t ∨ ∃ front, Front t front) := by
  intro text
  have htext (w : List Char) : stripPaths (a ++ String.ofList w ++ b) =
      stripPaths a ++ String.ofList (stripChars w) ++ stripPaths b := by
    rw [hab.stripPaths_eq, stripPaths_ofList]
  refine ⟨fun ⟨htemporary, hhome⟩ => ?_, fun front hfront => ?_, clear_or_front t⟩
  · obtain ⟨hclear, r, hr⟩ := stripChars_clear ht hin htemporary hhome hroot huser
    exact ⟨by rw [htext, htext, hclear], r, by rw [htext, hclear, hr]⟩
  · have hshown := stripChars_front ht hin hfront hroot huser
    refine ⟨by rw [htext, htext, hshown], fun hpathless => ?_⟩
    rw [htext, hshown, ← stripPaths_ofList, stripPaths_eq_self_iff.2 hpathless]

theorem isBaseName_bob : IsBaseName "bob".toList :=
  isBaseName_of_all (by decide) (by decide) (by decide)

theorem stripPaths_homeDirectory_backup :
    Around "cd ".toList " failed".toList ∧ (∀ c ∈ "backup:".toList, inPath c) ∧
      EndsInColon "backup:".toList ∧ "home".toList ∈ homeRoots ∧ IsBaseName "bob".toList ∧
      stripPaths "cd backup:/home/bob failed" = "cd backup:~ failed" := by
  have hab : Around "cd ".toList " failed".toList := .of_all (by decide) (by decide)
  have hin : ∀ c ∈ "backup:".toList, inPath c := List.all_eq_true.1 (by decide)
  have ht : EndsInColon "backup:".toList := endsInColon_concat "backup".toList
  have hroot : "home".toList ∈ homeRoots := by decide
  have hclear := pathless_iff.1 (show Pathless "backup:" by decide)
  refine ⟨hab, hin, ht, hroot, isBaseName_bob, ?_⟩
  have h := ((stripPaths_homeDirectory hab hin ht hroot isBaseName_bob).1 ⟨hclear.1, hclear.2.1⟩).1
  have hshown : stripPaths "cd backup:~ failed" = "cd backup:~ failed" :=
    stripPaths_eq_self_iff.2 (by decide)
  exact h.trans hshown

/-- In a list of home directories all but the first are taken for files in the first. -/
theorem second_home_shown :
    stripPaths "/home/alice:/home/bob" = "bob" ∧
      ¬ ∃ r, stripPaths "/home/alice:/home/bob" = r ++ "~" := by
  have halice : IsName "alice:".toList := isName_of_all (by decide) (by decide)
  have hroot : "home".toList ∈ homeRoots := by decide
  have ht : EndsInColon (pathOf ["home".toList, "alice:".toList]) :=
    endsInColon_concat "/home/alice".toList
  have habsent : temporary.Absent "/home/alice:".toList :=
    spells_temporaryPath.occursIn_eq_false_iff.1 (by decide)
  have hfront : Front (pathOf ["home".toList, "alice:".toList]) [] :=
    .home rfl habsent ⟨begins_home_pathOf hroot halice [], fun ys hys _ => hys⟩
  have hin : ∀ c ∈ pathOf ["home".toList, "alice:".toList], inPath c :=
    List.all_eq_true.1 (by decide)
  have hchars := stripChars_front ht hin hfront hroot isBaseName_bob
  rw [List.nil_append, stripChars_eq_self isBaseName_bob.isName.not_isSeparator] at hchars
  have hshown : stripPaths "/home/alice:/home/bob" = "bob" := congrArg String.ofList hchars
  refine ⟨hshown, fun ⟨r, hr⟩ => ?_⟩
  rw [hshown] at hr
  have hlast := congrArg (fun s => s.toList.getLast?) hr
  simp at hlast

end

end Resilience.Scrub
