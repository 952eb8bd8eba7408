import Resilience.Proofs.Friendly.HomeDirectories

/-!
# The file that a user is told of

The templates for missing, forbidden and existing files name the file of the first path in the
resource or in the messages of a failure. Its name is the last name of that path, which is what is
shown of the path, except for a home directory: there the name of the user is told
(`Translator.filename_told`).
-/

namespace Resilience.Scrub

variable {path front rest w n name root user : List Char} {a b : String}

/-! ## The first path of a text -/

theorem isDelimiter_of_isWordEnd {c : Char} (h : isWordEnd c) : isDelimiter c := by
  simp only [isWordEnd, isDelimiter, Bool.or_eq_true, List.contains_iff_mem] at h ⊢
  exact h.imp_right (List.mem_append_left ['[', ']', '<', '>'])

theorem findSome?_runs_append_cons {d : Char} (hd : isWordEnd d) (l r : List Char) :
    (Text.runs isWordEnd (l ++ d :: r)).findSome? baseName? =
      ((Text.runs isWordEnd l).findSome? baseName?).or
        ((Text.runs isWordEnd r).findSome? baseName?) := by
  rw [Text.runs_append_cons hd, List.findSome?_append]

/-- A word that is a path, with no path in front of it in the text. -/
theorem firstFileName?_eq (ha : firstFileName? a = none)
    (hbefore : ∀ d ∈ a.toList.getLast?, isWordEnd d)
    (hafter : ∀ d ∈ b.toList.head?, isWordEnd d) (hw : ∀ c ∈ w, inPath c)
    (hname : baseName? w = some n) :
    firstFileName? (a ++ String.ofList w ++ b) = some (String.ofList n) := by
  have hfound : (Text.runs isWordEnd (w ++ b.toList)).findSome? baseName? = some n := by
    obtain ⟨more, hruns⟩ := Text.exists_runs_eq isWordEnd (w ++ b.toList)
    have hword : (w ++ b.toList).takeWhile (!isWordEnd ·) = w := by
      refine Text.takeWhile_append_eq_left (fun c hc => ?_) (by simpa using hafter)
      have hin := hw c hc
      by_contra hend
      simp [inPath, isDelimiter_of_isWordEnd (by simpa using hend)] at hin
    rw [hruns, hword, List.findSome?_cons, hname]
  rw [firstFileName?, Option.map_eq_none_iff] at ha
  rw [firstFileName?, String.toList_append, String.toList_append, String.toList_ofList,
    List.append_assoc]
  rcases List.eq_nil_or_concat a.toList with hnil | ⟨front, d, hfront⟩
  · rw [hnil, List.nil_append, hfound, Option.map_some]
  · rw [List.concat_eq_append] at hfront
    have hd : isWordEnd d := hbefore d (by simp [hfront])
    rw [hfront, findSome?_runs_append_cons hd] at ha
    rw [hfront, List.append_assoc, List.singleton_append, findSome?_runs_append_cons hd,
      (Option.or_eq_none_iff.1 ha).1, Option.none_or, hfound, Option.map_some]

/-- The last name of a path, points and colons at its end apart. -/
def lastName (path : List Char) : List Char := (names (trimTail path)).getLastD ['~']

/-- Points and colons at the end of a path. -/
def tail (path : List Char) : List Char := path.drop (trimTail path).length

/-! ## The name of a path to a home directory -/

theorem homePath_matches_iff : homePath.Matches none path [] ↔
    ∃ u v, path = u ++ v ∧ (u = "/Users/".toList ∨ u = "/home/".toList) ∧ v ≠ [] ∧
      ∀ c ∈ v, inPath c := by
  simp only [spells_homePath none path [], isBeginning_home]

theorem names_trimTail_ne_nil (hpath : homePath.Matches none path []) :
    names (trimTail path) ≠ [] := by
  obtain ⟨u, v, rfl, hu, _⟩ := homePath_matches_iff.1 hpath
  rcases hu with rfl | rfl
  · rw [show "/Users/".toList ++ v = "/Users".toList ++ '/' :: v from rfl, trimTail_append_cons rfl]
    exact names_ne_nil (c := 'U') (by simp) rfl
  · rw [show "/home/".toList ++ v = "/home".toList ++ '/' :: v from rfl, trimTail_append_cons rfl]
    exact names_ne_nil (c := 'h') (by simp) rfl

theorem inPath_of_homePath (hpath : homePath.Matches none path []) : ∀ c ∈ path, inPath c := by
  obtain ⟨u, v, rfl, hu, _, hv⟩ := homePath_matches_iff.1 hpath
  refine List.forall_mem_append.2 ⟨?_, hv⟩
  rcases hu with rfl | rfl
  · exact List.all_eq_true.1 (by decide)
  · exact List.all_eq_true.1 (by decide)

theorem baseName?_homePath (hpath : homePath.Matches none path []) :
    baseName? path = some (lastName path) := by
  have hseparator : path.any isSeparator := by
    obtain ⟨u, v, rfl, hu, _⟩ := homePath_matches_iff.1 hpath
    rcases hu with rfl | rfl <;> rfl
  rw [baseName?, if_pos hseparator, lastName, List.getLastD_eq_getLast?]
  cases hlast : (names (trimTail path)).getLast? with
  | none => exact absurd (List.getLast?_eq_none_iff.1 hlast) (names_trimTail_ne_nil hpath)
  | some name => rfl

theorem reduce_eq_tail (depth : Nat) (path : List Char) : reduce depth path =
    (if depth < (names (trimTail path)).length then lastName path else ['~']) ++ tail path := rfl

theorem begins_of_homePath (hpath : homePath.Matches none path []) : home.Begins path := by
  obtain ⟨u, v, rfl, hu, hv, hin⟩ := homePath_matches_iff.1 hpath
  exact Family.begins_iff.2 ⟨u, v, [], by simp, isBeginning_home.2 hu, hv, hin⟩

/-- With no temporary directory on its way the last name is shown, unless that is the name of a user. -/
theorem stripChars_homePath (hpath : homePath.Matches none path []) (habsent : temporary.Absent path) :
    stripChars path =
      (if 2 < (names (trimTail path)).length then lastName path else ['~']) ++ tail path := by
  have hin := inPath_of_homePath hpath
  have hhome : home.strip path = reduce 2 path := (begins_of_homePath hpath).strip_eq hin
  rw [stripChars, habsent.strip_eq, hhome, drive.strip_eq_self isSeparator_of_mem_reduce]
  rfl

theorem isTail_of_mem_tail : ∀ c ∈ tail path, isTail c := by
  intro c hc
  rw [tail, drop_length_trimTail] at hc
  exact List.mem_takeWhile_imp (List.mem_reverse.1 hc)

theorem trimTail_append_tail (h : ∀ c ∈ w, isTail c) (s : List Char) :
    trimTail (s ++ w) = trimTail s := by
  have hreverse : ∀ c ∈ w.reverse, isTail c := fun c hc => h c (List.mem_reverse.1 hc)
  rw [trimTail, List.reverse_append, List.dropWhile_append_of_pos hreverse]
  rfl

/-- Points and colons apart, the last name is what is shown of the path if there are names enough. -/
theorem trimTail_stripChars_iff (hpath : homePath.Matches none path [])
    (habsent : temporary.Absent path) :
    trimTail (stripChars path) = trimTail (lastName path) ↔
      2 < (names (trimTail path)).length ∨ trimTail (lastName path) = ['~'] := by
  rw [stripChars_homePath hpath habsent, trimTail_append_tail isTail_of_mem_tail]
  split
  · next hcount => simp [hcount]
  · next hcount =>
    rw [show trimTail ['~'] = ['~'] from rfl, or_iff_right hcount, eq_comm]

/-! ## Temporary directories on the way to a file -/

/-- The last name does not hang on what is in front of a separator, if there is one behind it. -/
theorem lastName_append_cons {sep : Char} (hsep : isSeparator sep) {x : List Char}
    (hne : names (trimTail x) ≠ []) (s : List Char) : lastName (s ++ sep :: x) = lastName x := by
  rw [lastName, lastName, trimTail_append_cons hsep, names_append_cons hsep, List.getLastD_eq_getLast?,
    List.getLastD_eq_getLast?, List.getLast?_append_of_ne_nil _ hne]

theorem tail_append_cons {sep : Char} (hsep : isSeparator sep) (s x : List Char) :
    tail (s ++ sep :: x) = tail x := by
  rw [tail, trimTail_append_cons hsep, List.append_cons s sep x, List.append_cons s sep,
    List.length_append, List.drop_length_add_append]
  rfl

theorem names_trimTail_of_begins {x : List Char} (h : temporary.Begins ('/' :: x)) :
    names (trimTail x) ≠ [] := by
  obtain ⟨u, v, rest, hx, hu, _⟩ := Family.begins_iff.1 h
  -- Both beginnings hold a name, and end in a separator, where nothing is trimmed.
  rcases isBeginning_temporary.1 hu with rfl | rfl
  · obtain rfl : x = "private/var/folders".toList ++ '/' :: (v ++ rest) := (List.cons.inj hx).2
    rw [trimTail_append_cons rfl]
    exact names_ne_nil (c := 'v') (by simp) rfl
  · obtain rfl : x = "var/folders".toList ++ '/' :: (v ++ rest) := (List.cons.inj hx).2
    rw [trimTail_append_cons rfl]
    exact names_ne_nil (c := 'v') (by simp) rfl

theorem reduce_temporary {x : List Char} (hne : names (trimTail x) ≠ []) :
    reduce 0 ('/' :: x) = lastName x ++ tail x := by
  have hcount : 0 < (names (trimTail ([] ++ '/' :: x))).length := by
    rw [trimTail_append_cons rfl, names_append_cons rfl, List.length_pos_iff]
    exact List.append_ne_nil_of_right_ne_nil _ hne
  rw [← List.nil_append ('/' :: x), reduce_eq_tail, if_pos hcount, lastName_append_cons rfl hne,
    tail_append_cons rfl]

/-- A temporary directory on the way does not change the name, but is taken away first. -/
theorem stripChars_temporary (hin : ∀ c ∈ rest, inPath c) (hfirst : temporary.First front rest) :
    stripChars (front ++ rest) =
      stripChars (front ++ (lastName (front ++ rest) ++ tail (front ++ rest))) := by
  have hrest : rest ≠ [] := fun h => Family.not_begins_nil (h ▸ hfirst.begins)
  obtain ⟨c, x, rfl⟩ := List.exists_cons_of_ne_nil hrest
  obtain rfl := head_of_begins_temporary hfirst.begins
  have hne := names_trimTail_of_begins hfirst.begins
  have hreduce : reduce temporary.depth ('/' :: x) = lastName x ++ tail x := reduce_temporary hne
  have hshown : ∀ c ∈ lastName x ++ tail x, isSeparator c = false :=
    hreduce ▸ isSeparator_of_mem_reduce
  rw [lastName_append_cons rfl hne, tail_append_cons rfl, stripChars, hfirst.strip_eq hin, hreduce,
    stripChars, (hfirst.absent hshown).strip_eq]

end Resilience.Scrub

/-! ## What is told of a file -/

namespace Resilience.Translator

open Scrub

/-- The texts in which the file of a failure is looked for. -/
def placeTexts (f : Failure) (s : Situation) : List String :=
  (s.resource.or f.resource).toList ++ f.chain.map (·.message)

theorem filename_eq (f : Failure) (s : Situation) :
    (context f s).filename = (placeTexts f s).findSome? firstFileName? := by
  have hmessages : (f.chain.map (·.message)).findSome? firstFileName? =
      f.chain.findSome? fun g => firstFileName? g.message := by
    rw [List.findSome?_map]
    rfl
  rw [placeTexts, List.findSome?_append, hmessages, context]
  cases s.resource.or f.resource <;> simp

/-- Whether a path is the first one in some texts, as a word of its own. -/
inductive FirstPath (texts : List String) (path : List Char) : Prop where
  | intro {passed later : List String} {a b : String} :
    texts = passed ++ (a ++ String.ofList path ++ b) :: later →
    (∀ text ∈ passed, firstFileName? text = none) → firstFileName? a = none →
    (∀ d ∈ a.toList.getLast?, isWordEnd d) → (∀ d ∈ b.toList.head?, isWordEnd d) →
    FirstPath texts path

theorem filename_of_firstPath {path : List Char} {f : Failure} {s : Situation}
    (hpath : homePath.Matches none path []) (hfirst : FirstPath (placeTexts f s) path) :
    (context f s).filename = some (String.ofList (lastName path)) := by
  obtain ⟨htexts, hpassed, ha, hbefore, hafter⟩ := hfirst
  have hnone := List.findSome?_eq_none_iff.2 hpassed
  rw [filename_eq, htexts, List.findSome?_append, hnone, Option.none_or, List.findSome?_cons,
    firstFileName?_eq ha hbefore hafter (inPath_of_homePath hpath) (baseName?_homePath hpath)]

/-- What is told of a file with a name, by the keys of the templates that name one. -/
def fileSentences : List (String × (String → String)) :=
  [("ENOENT", fun name => "\"" ++ name ++ "\"" ++ " could not be found."),
    ("EACCES", fun name => "You don't have permission to access " ++ ("\"" ++ name ++ "\"") ++ "."),
    ("EEXIST", fun name => "\"" ++ name ++ "\"" ++ " already exists.")]

variable {rules : List Rule} {environment : Environment} {limit : Nat} {f : Failure} {s : Situation}
  {key name : String} {sentence : String → String}

theorem message_of_filename (hkey : (key, sentence) ∈ fileSentences)
    (h : (Translator.mk .builtin rules environment limit).classify f = key)
    (hname : (context f s).filename = some name) :
    ((Translator.mk .builtin rules environment limit).translate f s).message =
      Scrub.message limit (sentence name) := by
  have htemplate : ∃ template, Catalog.builtin.get? key = some template ∧
      ∀ c : Template.Context, c.filename = some name → (render template c).1 = sentence name := by
    simp only [fileSentences, List.mem_cons, List.not_mem_nil, or_false, Prod.mk.injEq] at hkey
    rcases hkey with ⟨rfl, rfl⟩ | ⟨rfl, rfl⟩ | ⟨rfl, rfl⟩
    all_goals
      refine ⟨_, rfl, fun c hc => ?_⟩
      simp [render, Template.Text.render, Template.Text.total, Template.Context.file, hc]
  obtain ⟨template, hget, hrender⟩ := htemplate
  simp only [translate, h, hget, Option.getD_some, hrender _ hname]

/-- The name of a file is told as it is, if there is nothing in it to scrub. -/
theorem message_sentence {user : List Char} (hkey : (key, sentence) ∈ fileSentences)
    (huser : IsName user) (hplain : ∀ c ∈ user, c ≠ '=' ∧ c ≠ ':')
    (hlimit : (sentence (String.ofList user)).length ≤ limit) :
    Scrub.message limit (sentence (String.ofList user)) = sentence (String.ofList user) := by
  have htrigger : user.all (!isTrigger ·) := by
    rw [List.all_eq_true]
    intro c hc
    simp [isTrigger, huser.2 c hc, hplain c hc]
  refine message_eq_self ?_ hlimit
  simp only [fileSentences, List.mem_cons, List.not_mem_nil, or_false, Prod.mk.injEq] at hkey
  rcases hkey with ⟨_, rfl⟩ | ⟨_, rfl⟩ | ⟨_, rfl⟩
  all_goals
    simp only [String.toList_append, List.all_append, String.toList_ofList, htrigger]
    decide

theorem homeDirectory_names {root user : List Char} (hroot : root ∈ homeRoots)
    (huser : IsBaseName user) :
    lastName (pathOf [root, user]) = user ∧ stripPaths (String.ofList (pathOf [root, user])) = "~" := by
  have hpath : pathOf [root, user] = '/' :: root ++ '/' :: user := by simp
  constructor
  · rw [hpath, lastName, List.append_cons, huser.trimTail_eq, ← List.append_cons,
      names_append_cons rfl, huser.isName.names_eq]
    simp
  · have hclear (f : Family) : f.Absent [] := Family.absent_of_no_separator (by simp)
    have hhidden :=
      (stripChars_clear endsInColon_nil (by simp) (hclear temporary) (hclear home) hroot huser).1
    have htilde : stripChars ['~'] = ['~'] := stripChars_eq_self isBaseName_tilde.isName.not_isSeparator
    rw [List.nil_append, List.nil_append, htilde] at hhidden
    rw [stripPaths_ofList, hhidden]

/-- The name of the first path to a home directory is the one that the templates for files tell. It is
what is shown of the path, points and colons at its end apart, if there are more than two names; of a
home directory itself the name of the user is told, and where a temporary directory is on the way, that
is taken away before. -/
theorem filename_told (rules : List Rule) (environment : Environment) (limit : Nat) (f : Failure)
    (s : Situation) {path : List Char} (hpath : homePath.Matches none path [])
    (hfirst : FirstPath (placeTexts f s) path) :
    let t := Translator.mk .builtin rules environment limit
    let shown := stripPaths (String.ofList path)
    (context f s).filename = some (String.ofList (lastName path)) ∧
    (temporary.Absent path →
      (shown = String.ofList
        ((if 2 < (names (trimTail path)).length then lastName path else ['~']) ++ tail path)) ∧
      (trimTail shown.toList = trimTail (lastName path) ↔
        2 < (names (trimTail path)).length ∨ trimTail (lastName path) = ['~'])) ∧
    (∀ front rest, path = front ++ rest → temporary.First front rest →
      shown = stripPaths (String.ofList (front ++ (lastName path ++ tail path)))) ∧
    (∀ key sentence, (key, sentence) ∈ fileSentences → t.classify f = key →
      (t.translate f s).message = Scrub.message limit (sentence (String.ofList (lastName path)))) ∧
    ∀ root user, path = pathOf [root, user] → root ∈ homeRoots → IsBaseName user →
      lastName path = user ∧ shown = "~" ∧
      ((∀ c ∈ user, c ≠ '=' ∧ c ≠ ':') →
        ∀ key sentence, (key, sentence) ∈ fileSentences → t.classify f = key →
          (sentence (String.ofList user)).length ≤ limit →
          (t.translate f s).message = sentence (String.ofList user)) := by
  intro t shown
  have hname := filename_of_firstPath hpath hfirst
  have hmessage : ∀ key sentence, (key, sentence) ∈ fileSentences → t.classify f = key →
      (t.translate f s).message = Scrub.message limit (sentence (String.ofList (lastName path))) :=
    fun _ _ hkey hclassify => message_of_filename hkey hclassify hname
  have hshown : shown = String.ofList (stripChars path) := stripPaths_ofList path
  refine ⟨hname, fun habsent => ⟨?_, ?_⟩, fun front rest hrest htemporary => ?_, hmessage,
    fun root user hdirectory hroot huser => ?_⟩
  · rw [hshown, stripChars_homePath hpath habsent]
  · rw [hshown, String.toList_ofList]
    exact trimTail_stripChars_iff hpath habsent
  · have hin := (List.forall_mem_append.1 (hrest ▸ inPath_of_homePath hpath)).2
    rw [hshown, stripPaths_ofList, hrest]
    exact congrArg String.ofList (stripChars_temporary hin htemporary)
  · obtain ⟨hlast, htilde⟩ := homeDirectory_names hroot huser
    rw [← hdirectory] at hlast htilde
    refine ⟨hlast, htilde, fun hplain key sentence hkey hclassify hlimit => ?_⟩
    rw [hmessage key sentence hkey hclassify, hlast]
    exact message_sentence hkey huser.isName hplain hlimit

/-- A page that could not be opened. -/
def missingPage : Failure :=
  Failure.make default "ENOENT: no such file or directory, open '/home/bob/site/index.md'" "ENOENT"
    .fileSystem

theorem filename_told_missingPage :
    homePath.Matches none "/home/bob/site/index.md".toList [] ∧
      FirstPath (placeTexts missingPage {}) "/home/bob/site/index.md".toList ∧
      stripPaths "/home/bob/site/index.md" = "index.md" ∧
      (({} : Translator).translate missingPage {}).message = "\"index.md\" could not be found." := by
  have hpath : homePath.Matches none "/home/bob/site/index.md".toList [] :=
    homePath_matches_iff.2 ⟨"/home/".toList, "bob/site/index.md".toList, rfl, .inr rfl, by decide,
      List.all_eq_true.1 (by decide)⟩
  have hfirst : FirstPath (placeTexts missingPage {}) "/home/bob/site/index.md".toList :=
    @FirstPath.intro _ _ [] [] "ENOENT: no such file or directory, open '" "'"
      rfl (by simp) (by decide) ((Option.all_eq_true ..).1 (by decide))
      ((Option.all_eq_true ..).1 (by decide))
  have habsent : temporary.Absent "/home/bob/site/index.md".toList :=
    spells_temporaryPath.occursIn_eq_false_iff.1 (by decide)
  have hclassify : ({} : Translator).classify missingPage = "ENOENT" := by decide
  obtain ⟨_, hshown, _, hmessage, _⟩ := filename_told Rule.builtin .production Scrub.defaultLimit
    missingPage {} hpath hfirst
  refine ⟨hpath, hfirst, (hshown habsent).1, ?_⟩
  have hplain : Scrub.message Scrub.defaultLimit "\"index.md\" could not be found." =
      "\"index.md\" could not be found." := message_eq_self (by decide) (by decide)
  exact (hmessage "ENOENT" _ (.head _) hclassify).trans hplain

/-- A home directory that is not there. -/
def missingHome : Failure :=
  { Failure.make default "no such file or directory" "ENOENT" .fileSystem with
    resource := some "/home/dana" }

/-- The user is told the name of a home directory, which is hidden where its path is shown. -/
theorem owner_told :
    stripPaths "/home/dana" = "~" ∧
      (({} : Translator).translate missingHome {}).message = "\"dana\" could not be found." := by
  have hroot : "home".toList ∈ homeRoots := by decide
  have huser : IsBaseName "dana".toList := isBaseName_of_all (by decide) (by decide) (by decide)
  have hshown : stripPaths "/home/dana" = "~" := (homeDirectory_names hroot huser).2
  have hkey : ("ENOENT", fun name => "\"" ++ name ++ "\"" ++ " could not be found.") ∈ fileSentences :=
    .head _
  have hname : (context missingHome {}).filename = some "dana" := by decide
  have hclassify : ({} : Translator).classify missingHome = "ENOENT" := by decide
  have hplain : Scrub.message Scrub.defaultLimit "\"dana\" could not be found." =
      "\"dana\" could not be found." := message_eq_self (by decide) (by decide)
  exact ⟨hshown, (message_of_filename hkey hclassify hname).trans hplain⟩

end Resilience.Translator
