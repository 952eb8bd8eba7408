import Resilience.Proofs.Friendly.Words

/-!
# What is shown of a file

Of the path of a file in a home directory only the base name is shown, unless a temporary directory
is on its way. The temporary path is reduced first and its base name is put right behind the name in
front of it, so the names up to there are shown with it, or the file is hidden
(`stripPaths_file`).
-/

namespace Resilience.Scrub

/-! ## Names of a path -/

theorem names_append_cons {sep : Char} (h : isSeparator sep) (a b : List Char) :
    names (a ++ sep :: b) = names a ++ names b := by
  rw [names, Text.runs_append_cons h, List.filter_append]
  rfl

theorem IsName.not_isSeparator {name : List Char} (h : IsName name) :
    ∀ c ∈ name, isSeparator c = false :=
  fun c hc => (h.2 c hc).1

theorem IsName.names_eq {name : List Char} (h : IsName name) : names name = [name] := by
  rw [names, Text.runs_eq_singleton h.not_isSeparator]
  simp [h.1]

theorem IsName.inPath {name : List Char} (h : IsName name) : ∀ c ∈ name, inPath c := by
  intro c hc
  simp [Scrub.inPath, (h.2 c hc).2]

theorem IsName.append {name other : List Char} (h : IsName name) (h' : IsName other) :
    IsName (name ++ other) := by
  exact ⟨List.append_ne_nil_of_left_ne_nil h.1 other, List.forall_mem_append.2 ⟨h.2, h'.2⟩⟩

theorem names_ne_nil {cs : List Char} {c : Char} (hc : c ∈ cs) (h : isSeparator c = false) :
    names cs ≠ [] := by
  obtain ⟨a, b, rfl⟩ := List.append_of_mem hc
  have hwithin : [c] <:+: a ++ c :: b := ⟨a, b, by simp⟩
  obtain ⟨run, hrun, hin⟩ := (Text.infix_iff_runs (List.cons_ne_nil c []) (by simpa using h)).1 hwithin
  have hne : run ≠ [] := List.ne_nil_of_mem (hin.subset List.mem_cons_self)
  exact List.ne_nil_of_mem (List.mem_filter.2 ⟨hrun, by simpa using hne⟩)

theorem trimTail_append {s : List Char} (hs : ∀ c ∈ s.getLast?, isTail c = false) (x : List Char) :
    trimTail (s ++ x) = s ++ trimTail x := by
  have hdrop : s.reverse.dropWhile isTail = s.reverse := by
    rw [← List.head?_reverse] at hs
    cases hrev : s.reverse with
    | nil => rfl
    | cons c rest => exact List.dropWhile_cons_of_neg (by simp [hs c (by simp [hrev])])
  rw [trimTail, trimTail, List.reverse_append, List.dropWhile_append, hdrop]
  split
  · next hnil => simp [List.isEmpty_iff.1 hnil]
  · simp

theorem trimTail_append_cons {sep : Char} (hsep : isSeparator sep) (s x : List Char) :
    trimTail (s ++ sep :: x) = s ++ sep :: trimTail x := by
  have hnot : isTail sep = false := by
    simp only [isSeparator, Bool.or_eq_true, decide_eq_true_eq] at hsep
    rcases hsep with rfl | rfl <;> rfl
  have hlast : ∀ c ∈ (s ++ [sep]).getLast?, isTail c = false := by simpa using hnot
  rw [List.append_cons, trimTail_append hlast, ← List.append_cons]

/-- A name with nothing at its end that is taken for punctuation. -/
structure IsBaseName (name : List Char) : Prop where
  isName : IsName name
  getLast? : ∀ c ∈ name.getLast?, isTail c = false

theorem isBaseName_of_all {name : List Char} (hne : name ≠ [])
    (h : name.all fun c => !isSeparator c && !isDelimiter c)
    (hlast : name.getLast?.all fun c => !isTail c) : IsBaseName name :=
  ⟨isName_of_all hne h, fun c hc => by simpa using (Option.all_eq_true ..).1 hlast c hc⟩

theorem isBaseName_tilde : IsBaseName ['~'] :=
  isBaseName_of_all (by decide) (by decide) (by decide)

namespace IsBaseName

variable {name s : List Char}

theorem trimTail_eq (h : IsBaseName name) (s : List Char) : trimTail (s ++ name) = s ++ name := by
  have hlast : ∀ c ∈ (s ++ name).getLast?, isTail c = false := by
    rw [List.getLast?_append_of_ne_nil _ h.isName.1]
    exact h.getLast?
  have htrim := trimTail_append hlast []
  rwa [List.append_nil, show trimTail [] = [] from rfl, List.append_nil] at htrim

/-- The name is shown if there are names enough in front of it. -/
theorem reduce_eq (h : IsBaseName name) (depth : Nat) {sep : Char} (hsep : isSeparator sep)
    (s : List Char) :
    reduce depth (s ++ sep :: name) = if depth ≤ (names s).length then name else ['~'] := by
  have hnames : names (s ++ sep :: name) = names s ++ [name] := by
    rw [names_append_cons hsep, h.isName.names_eq]
  have htrim : trimTail (s ++ sep :: name) = s ++ sep :: name := by
    rw [List.append_cons, h.trimTail_eq]
  rw [reduce, htrim, hnames, List.getLastD_concat, List.drop_length, List.append_nil,
    List.length_append, List.length_singleton]
  simp only [Nat.lt_succ_iff]

theorem append (h : IsBaseName name) (hs : IsName s) : IsBaseName (s ++ name) := by
  refine ⟨hs.append h.isName, fun c hc => h.getLast? c ?_⟩
  rwa [List.getLast?_append_of_ne_nil _ h.isName.1] at hc

end IsBaseName

/-- The path of names, from the root. -/
def pathOf (names : List (List Char)) : List Char := names.flatMap ('/' :: ·)

section

variable {ns ms : List (List Char)} {n file root user : List Char}

@[simp] theorem pathOf_nil : pathOf [] = [] := rfl

@[simp] theorem pathOf_cons (n : List Char) (ns : List (List Char)) :
    pathOf (n :: ns) = '/' :: (n ++ pathOf ns) := rfl

theorem pathOf_append (ns ms : List (List Char)) : pathOf (ns ++ ms) = pathOf ns ++ pathOf ms :=
  List.flatMap_append

theorem pathOf_concat (ns : List (List Char)) (n : List Char) :
    pathOf (ns ++ [n]) = pathOf ns ++ '/' :: n := by
  rw [pathOf_append, pathOf_cons, pathOf_nil, List.append_nil]

theorem names_pathOf (h : ∀ n ∈ ns, IsName n) : names (pathOf ns) = ns := by
  induction ns using List.reverseRecOn with
  | nil => rfl
  | append_singleton ns n ih =>
    have hn : IsName n := h n (by simp)
    rw [pathOf_concat, names_append_cons rfl, hn.names_eq, ih fun m hm => h m (by simp [hm])]

theorem inPath_pathOf (h : ∀ n ∈ ns, IsName n) : ∀ c ∈ pathOf ns, inPath c := by
  intro c hc
  obtain ⟨n, hn, hc⟩ := List.mem_flatMap.1 hc
  rcases List.mem_cons.1 hc with rfl | hc
  · rfl
  · exact (h n hn).inPath c hc

/-! ## Temporary directories on the way -/

/-- The names with which temporary paths begin. -/
def temporaryRoots : List (List (List Char)) :=
  [["private".toList, "var".toList, "folders".toList], ["var".toList, "folders".toList]]

/-- The names in front of the first temporary directory. -/
def beforeTemporary : List (List Char) → Option (List (List Char))
  | [] => none
  | n :: ns =>
    if temporaryRoots.any (·.isPrefixOf (n :: ns)) then some []
    else (beforeTemporary ns).map (n :: ·)

theorem isName_of_mem_temporaryRoots {r : List (List Char)} (hr : r ∈ temporaryRoots) :
    ∀ n ∈ r, IsName n := by
  have hall : ∀ r ∈ temporaryRoots, ∀ n ∈ r,
      n ≠ [] ∧ n.all fun c => !isSeparator c && !isDelimiter c := by decide
  intro n hn
  exact isName_of_all (hall r hr n hn).1 (hall r hr n hn).2

theorem isBeginning_temporary_iff {u : List Char} :
    temporary.IsBeginning u ↔ ∃ r ∈ temporaryRoots, u = pathOf r ++ ['/'] := by
  simp only [isBeginning_temporary, temporaryRoots, List.mem_cons, List.not_mem_nil, or_false,
    exists_eq_or_imp, exists_eq_left]
  rfl

/-- A temporary path begins where its names do, and goes on behind them. -/
theorem begins_temporary_iff (hns : ∀ n ∈ ns, IsName n) (hfile : IsName file) :
    temporary.Begins (pathOf (ns ++ [file])) ↔ temporaryRoots.any (·.isPrefixOf ns) := by
  have hall : ∀ n ∈ ns ++ [file], IsName n :=
    List.forall_mem_append.2 ⟨hns, List.forall_mem_singleton.2 hfile⟩
  simp only [Family.begins_iff, isBeginning_temporary_iff, List.any_eq_true, List.isPrefixOf_iff_prefix]
  constructor
  · intro ⟨u, v, rest, hpath, ⟨r, hr, hu⟩, hv, _⟩
    refine ⟨r, hr, ?_⟩
    rw [hu, List.append_assoc, List.singleton_append] at hpath
    have hnames : ns ++ [file] = r ++ names (v ++ rest) := by
      rw [← names_pathOf hall, hpath, names_append_cons rfl,
        names_pathOf (isName_of_mem_temporaryRoots hr)]
    rcases List.eq_nil_or_concat (names (v ++ rest)) with hnil | ⟨more, last, hmore⟩
    · rw [hnil, List.append_nil] at hnames
      have hlength := congrArg List.length hpath
      simp [hnames] at hlength
    · rw [hmore, List.concat_eq_append, ← List.append_assoc] at hnames
      exact ⟨more, (List.append_inj' hnames rfl).1.symm⟩
  · intro ⟨r, hr, more, hmore⟩
    obtain ⟨n, ms, hms⟩ : ∃ n ms, more ++ [file] = n :: ms := by
      cases more <;> simp
    have hms' : ∀ m ∈ n :: ms, IsName m := by
      rw [← hmore, List.append_assoc, hms] at hall
      exact (List.forall_mem_append.1 hall).2
    refine ⟨pathOf r ++ ['/'], n ++ pathOf ms, [], ?_, ⟨r, hr, rfl⟩, ?_, fun c hc => ?_⟩
    · rw [← hmore, List.append_assoc, hms, pathOf_append, pathOf_cons]
      simp
    · exact List.append_ne_nil_of_left_ne_nil (hms' n List.mem_cons_self).1 _
    · refine inPath_pathOf hms' c ?_
      rw [pathOf_cons]
      exact List.mem_cons_of_mem '/' hc

theorem head_of_begins_temporary {c : Char} {cs : List Char} (h : temporary.Begins (c :: cs)) :
    c = '/' := by
  obtain ⟨u, v, rest, hcs, hu, _⟩ := Family.begins_iff.1 h
  rcases isBeginning_temporary.1 hu with rfl | rfl <;> exact (List.cons.inj hcs).1

theorem strip_temporary_append (hn : ∀ c ∈ n, isSeparator c = false) (cs : List Char) :
    temporary.strip (n ++ cs) = n ++ temporary.strip cs := by
  induction n with
  | nil => rfl
  | cons c n ih =>
    have hc : ¬ temporary.Begins (c :: (n ++ cs)) := by
      intro h
      obtain rfl := head_of_begins_temporary h
      exact absurd (hn '/' List.mem_cons_self) (by decide)
    rw [List.cons_append, Family.strip_of_not_begins hc, ih fun d hd => hn d (List.mem_cons_of_mem c hd),
      List.cons_append]

/-- The base name of a temporary path comes right behind the names in front of it. -/
theorem strip_temporary_pathOf (hns : ∀ n ∈ ns, IsName n) (hfile : IsBaseName file) :
    temporary.strip (pathOf (ns ++ [file])) =
      (beforeTemporary ns).elim (pathOf (ns ++ [file])) fun kept => pathOf kept ++ file := by
  induction ns with
  | nil =>
    have hnot : ¬ temporary.Begins (pathOf ([] ++ [file])) := by
      rw [begins_temporary_iff hns hfile.isName]
      decide
    rw [List.nil_append, pathOf_cons, pathOf_nil, List.append_nil] at hnot ⊢
    rw [Family.strip_of_not_begins hnot, temporary.strip_eq_self hfile.isName.not_isSeparator]
    rfl
  | cons n ns ih =>
    have hall : ∀ m ∈ n :: ns ++ [file], IsName m :=
      List.forall_mem_append.2 ⟨hns, List.forall_mem_singleton.2 hfile.isName⟩
    have hbegins := begins_temporary_iff hns hfile.isName
    by_cases hroot : temporaryRoots.any (·.isPrefixOf (n :: ns))
    · rw [beforeTemporary, if_pos hroot, (hbegins.2 hroot).strip_eq (inPath_pathOf hall), pathOf_concat,
        hfile.reduce_eq _ rfl]
      exact if_pos (Nat.zero_le _)
    · have hnot : ¬ temporary.Begins ('/' :: (n ++ pathOf (ns ++ [file]))) := fun h =>
        hroot (hbegins.1 h)
      have hn := hns n List.mem_cons_self
      rw [beforeTemporary, if_neg hroot, List.cons_append, pathOf_cons,
        Family.strip_of_not_begins hnot, strip_temporary_append hn.not_isSeparator,
        ih fun m hm => hns m (List.mem_cons_of_mem n hm)]
      cases beforeTemporary ns with
      | none => rfl
      | some kept => simp

theorem beforeTemporary_eq_none_iff :
    beforeTemporary ns = none ↔ ¬ ["var".toList, "folders".toList] <:+: ns := by
  induction ns with
  | nil => decide
  | cons n ns ih =>
    have hprivate : ["private".toList, "var".toList, "folders".toList] <+: n :: ns →
        ["var".toList, "folders".toList] <:+: ns :=
      fun h => (List.cons_prefix_cons.1 h).2.isInfix
    rw [beforeTemporary, List.infix_cons_iff]
    split
    · next hroot =>
      simp only [temporaryRoots, List.any_cons, List.any_nil, Bool.or_false, Bool.or_eq_true,
        List.isPrefixOf_iff_prefix] at hroot
      refine iff_of_false (by simp) (not_not_intro ?_)
      exact hroot.symm.imp_right hprivate
    · next hroot =>
      simp only [temporaryRoots, List.any_cons, List.any_nil, Bool.or_false, Bool.or_eq_true,
        List.isPrefixOf_iff_prefix, not_or] at hroot
      rw [Option.map_eq_none_iff, ih, not_or]
      exact (and_iff_right hroot.2).symm

/-! ## Files in home directories -/

/-- The directories that home directories are in. -/
def homeRoots : List (List Char) := ["home".toList, "Users".toList]

theorem isName_of_mem_homeRoots (h : root ∈ homeRoots) : IsName root := by
  have hall : ∀ root ∈ homeRoots, root ≠ [] ∧ root.all fun c => !isSeparator c && !isDelimiter c := by
    decide
  exact isName_of_all (hall root h).1 (hall root h).2

theorem begins_home_pathOf (hroot : root ∈ homeRoots) (hn : IsName n) (ns : List (List Char)) :
    home.Begins (pathOf (root :: n :: ns)) := by
  simp only [homeRoots, List.mem_cons, List.not_mem_nil, or_false] at hroot
  rcases hroot with rfl | rfl
  · simpa using begins_of_isName (f := home) (by simp [home]) (forall₂_exactly "/home/") hn (pathOf ns)
  · simpa using begins_of_isName (f := home) (by simp [home]) (forall₂_exactly "/Users/") hn (pathOf ns)

/-- The home directory itself is hidden, and only the last name is shown of what is in it. -/
theorem strip_home_pathOf (hroot : root ∈ homeRoots) (hns : ∀ n ∈ ns, IsName n)
    (hfile : IsBaseName file) :
    home.strip (pathOf (root :: (ns ++ [file]))) = if ns = [] then ['~'] else file := by
  have hfront : ∀ n ∈ root :: ns, IsName n :=
    List.forall_mem_cons.2 ⟨isName_of_mem_homeRoots hroot, hns⟩
  have hall : ∀ n ∈ root :: (ns ++ [file]), IsName n :=
    List.forall_mem_append.2 ⟨hfront, List.forall_mem_singleton.2 hfile.isName⟩
  have hbegins : home.Begins (pathOf (root :: (ns ++ [file]))) := by
    cases ns with
    | nil => exact begins_home_pathOf hroot hfile.isName []
    | cons n ns => exact begins_home_pathOf hroot (hns n List.mem_cons_self) _
  rw [hbegins.strip_eq (inPath_pathOf hall), ← List.cons_append, pathOf_concat,
    hfile.reduce_eq _ rfl, names_pathOf hfront]
  cases ns <;> simp [home]

/-- One separator makes no path. -/
theorem Family.strip_cons_eq_self {f : Family} {c : Char} {cs : List Char}
    (hf : ∀ head ∈ f.heads, 1 < head.length) (h : ∀ d ∈ cs, isSeparator d = false) :
    f.strip (c :: cs) = c :: cs := by
  have hnot : ¬ f.Begins (c :: cs) := by
    intro ⟨head, hhead, hbegins⟩
    have hok := f.isHead head hhead
    have hlong := hf head hhead
    match head, hok with
    | p :: q :: ps, hok =>
      rw [beginsWith_append, Bool.and_eq_true, beginsWith, Bool.and_eq_true] at hbegins
      have hend : ∀ d ∈ ([] : List Char).head?, isDelimiter d := by simp
      have hrest := not_beginsWith_of_not_isSeparator (List.cons_ne_nil q ps)
        (fun r hr => hok.inPath r (List.mem_cons_of_mem p hr)) hok.separator_of_last h hend
      rw [List.append_nil] at hrest
      exact hrest hbegins.1.2
  rw [strip_of_not_begins hnot, f.strip_eq_self h]

/-- What is shown of a file, given the names of directories in front of a temporary one on its way,
if there is one. -/
def shownFile (root file : List Char) : Option (List (List Char)) → List Char
  | none => file
  | some [] => '/' :: root ++ file
  | some (_ :: dirs) => dirs.getLast?.elim ['~'] (· ++ file)

theorem mem_of_beforeTemporary {kept : List (List Char)} (h : beforeTemporary ns = some kept) :
    ∀ n ∈ kept, n ∈ ns := by
  induction ns generalizing kept with
  | nil => cases h
  | cons m ns ih =>
    rw [beforeTemporary] at h
    split at h
    · cases h
      simp
    · obtain ⟨more, hmore, rfl⟩ := Option.map_eq_some_iff.1 h
      intro n hn
      rcases List.mem_cons.1 hn with rfl | hn
      · exact List.mem_cons_self
      · exact List.mem_cons_of_mem m (ih hmore n hn)

theorem stripChars_kept {kept : List (List Char)} (hroot : root ∈ homeRoots)
    (hkept : ∀ n ∈ kept, IsName n) (hfile : IsBaseName file) :
    drive.strip (home.strip (pathOf (root :: kept) ++ file)) = shownFile root file (some kept) := by
  have hseparator (name : List Char) (h : IsBaseName name) : drive.strip name = name :=
    drive.strip_eq_self h.isName.not_isSeparator
  rcases List.eq_nil_or_concat kept with rfl | ⟨front, last, rfl⟩
  · have hname := (isName_of_mem_homeRoots hroot).append hfile.isName
    have hrest := hname.not_isSeparator
    rw [pathOf_cons, pathOf_nil, List.append_nil, List.cons_append,
      home.strip_cons_eq_self (by decide) hrest, drive.strip_cons_eq_self (by decide) hrest]
    rfl
  · rw [List.concat_eq_append] at hkept ⊢
    have hlast := hfile.append (hkept last (by simp))
    have hjoined : pathOf (root :: (front ++ [last])) ++ file =
        pathOf (root :: (front ++ [last ++ file])) := by
      simp [pathOf_append]
    rw [hjoined, strip_home_pathOf hroot (fun n hn => hkept n (by simp [hn])) hlast]
    cases front with
    | nil => exact hseparator _ isBaseName_tilde
    | cons n front =>
      rw [if_neg (List.cons_ne_nil n front), hseparator _ hlast]
      simp [shownFile]

theorem stripChars_file {dirs : List (List Char)} (hroot : root ∈ homeRoots) (huser : IsName user)
    (hdirs : ∀ d ∈ dirs, IsName d) (hfile : IsBaseName file) :
    stripChars (pathOf (root :: user :: (dirs ++ [file]))) =
      shownFile root file (beforeTemporary (user :: dirs)) := by
  have hns : ∀ n ∈ user :: dirs, IsName n := List.forall_mem_cons.2 ⟨huser, hdirs⟩
  have hall : ∀ n ∈ root :: user :: dirs, IsName n :=
    List.forall_mem_cons.2 ⟨isName_of_mem_homeRoots hroot, hns⟩
  have hskip : beforeTemporary (root :: user :: dirs) =
      (beforeTemporary (user :: dirs)).map (root :: ·) := by
    rw [beforeTemporary, if_neg]
    simp only [homeRoots, List.mem_cons, List.not_mem_nil, or_false] at hroot
    rcases hroot with rfl | rfl <;> simp [temporaryRoots]
  have htemporary := strip_temporary_pathOf hall hfile
  rw [List.cons_append, List.cons_append, hskip] at htemporary
  rw [stripChars, htemporary]
  cases hbefore : beforeTemporary (user :: dirs) with
  | none =>
    have hhome := strip_home_pathOf hroot hns hfile
    rw [if_neg (List.cons_ne_nil user dirs), List.cons_append] at hhome
    rw [Option.map_none, Option.elim_none, hhome]
    exact drive.strip_eq_self hfile.isName.not_isSeparator
  | some kept =>
    rw [Option.map_some, Option.elim_some]
    exact stripChars_kept hroot (fun n hn => hns n (mem_of_beforeTemporary hbefore n hn)) hfile

theorem shownFile_eq_file_iff {kept : Option (List (List Char))}
    (h : ∀ ns ∈ kept, ∀ n ∈ ns, IsName n) :
    shownFile root file kept = file ↔ kept = none ∨ (∃ n, kept = some [n]) ∧ file = ['~'] := by
  match kept with
  | none => simp [shownFile]
  | some [] =>
    refine iff_of_false (fun heq => ?_) (by simp)
    have hlength := congrArg List.length heq
    simp [shownFile] at hlength
    omega
  | some [n] => simp [shownFile, eq_comm]
  | some (n :: dir :: dirs) =>
    refine iff_of_false (fun heq => ?_) (by simp)
    obtain ⟨front, last, hdirs⟩ := List.eq_nil_or_concat (dir :: dirs) |>.resolve_left (by simp)
    rw [List.concat_eq_append] at hdirs
    have hlast : last ≠ [] := (h _ rfl last (by simp [hdirs])).1
    rw [hdirs] at heq
    simp [shownFile, hlast] at heq

/-- Wherever the path of a file in a home directory stands as a word of its own, it is shown by its
base name alone if and only if no temporary directory is on its way (but a file may have the name that
is shown for home directories). Otherwise the base name is shown right behind the name in front of the
temporary directory, or the file is hidden. -/
theorem stripPaths_file {a b : String} {dirs : List (List Char)} (hab : Around a.toList b.toList)
    (hroot : root ∈ homeRoots) (huser : IsName user) (hdirs : ∀ d ∈ dirs, IsName d)
    (hfile : IsBaseName file) :
    let path := String.ofList (pathOf (root :: user :: (dirs ++ [file])))
    let shown := shownFile root file (beforeTemporary (user :: dirs))
    stripPaths (a ++ path ++ b) = stripPaths a ++ String.ofList shown ++ stripPaths b ∧
      (shown = file ↔ ¬ ["var".toList, "folders".toList] <:+: user :: dirs ∨
        (∃ n, beforeTemporary (user :: dirs) = some [n]) ∧ file = ['~']) := by
  intro path shown
  have hns : ∀ n ∈ user :: dirs, IsName n := List.forall_mem_cons.2 ⟨huser, hdirs⟩
  constructor
  · rw [hab.stripPaths_eq, stripPaths_ofList, stripChars_file hroot huser hdirs hfile]
  · rw [← beforeTemporary_eq_none_iff]
    exact shownFile_eq_file_iff fun kept hkept n hn => hns n (mem_of_beforeTemporary hkept n hn)

theorem stripPaths_file_named :
    Around "cannot open ".toList " now".toList ∧ "Users".toList ∈ homeRoots ∧
      IsName "alice".toList ∧ (∀ d ∈ ["secret".toList], IsName d) ∧ IsBaseName "file.txt".toList ∧
      stripPaths "cannot open /Users/alice/secret/file.txt now" = "cannot open file.txt now" := by
  have hab : Around "cannot open ".toList " now".toList := .of_all (by decide) (by decide)
  have hroot : "Users".toList ∈ homeRoots := by decide
  have huser : IsName "alice".toList := isName_of_all (by decide) (by decide)
  have hdirs : ∀ d ∈ ["secret".toList], IsName d :=
    List.forall_mem_singleton.2 (isName_of_all (by decide) (by decide))
  have hfile : IsBaseName "file.txt".toList :=
    isBaseName_of_all (by decide) (by decide) (by decide)
  refine ⟨hab, hroot, huser, hdirs, hfile, ?_⟩
  have hbefore : stripPaths "cannot open " = "cannot open " := stripPaths_eq_self_iff.2 (by decide)
  have hafter : stripPaths " now" = " now" := stripPaths_eq_self_iff.2 (by decide)
  have h := (stripPaths_file hab hroot huser hdirs hfile).1
  rw [hbefore, hafter] at h
  exact h

/-- The name of the directory that a temporary directory is in is shown with the file. -/
theorem directory_shown_with_file :
    let path := "/home/dana/site/var/folders/x/index.md"
    stripPaths path = "siteindex.md" ∧ stripPaths path ≠ "index.md" := by
  have hname (name : String) (hne : name.toList ≠ [])
      (h : name.toList.all fun c => !isSeparator c && !isDelimiter c) : IsName name.toList :=
    isName_of_all hne h
  have hdirs : ∀ d ∈ ["site".toList, "var".toList, "folders".toList, "x".toList], IsName d := by
    simp only [List.forall_mem_cons]
    exact ⟨hname "site" (by decide) (by decide), hname "var" (by decide) (by decide),
      hname "folders" (by decide) (by decide), hname "x" (by decide) (by decide), by simp⟩
  have hfile : IsBaseName "index.md".toList :=
    isBaseName_of_all (by decide) (by decide) (by decide)
  have hroot : "home".toList ∈ homeRoots := by decide
  have hshown : stripPaths "/home/dana/site/var/folders/x/index.md" = "siteindex.md" :=
    congrArg String.ofList (stripChars_file hroot (hname "dana" (by decide) (by decide)) hdirs hfile)
  intro path
  exact ⟨hshown, hshown ▸ by decide⟩

end

end Resilience.Scrub
