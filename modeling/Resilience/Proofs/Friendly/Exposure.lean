import Resilience.Friendly.Terminal
import Resilience.Proofs.Friendly.Privacy

/-!
# What is told unscrubbed

With the built-in catalog, what a user is told shows a home directory only in the texts that are told
as they came: the code, the channel and the operation (`Translator.showsHome_iff`). On a terminal it
is the code alone.
-/

namespace Resilience

/-! ## Texts of a value -/

mutual

/-- The texts in a JSON value, from left to right, names of members apart. -/
def Json.texts : Json → List String
  | .str s => [s]
  | .arr items => itemTexts items
  | .obj members => memberTexts members
  | .null | .bool _ | .num _ => []

def Json.itemTexts : List Json → List String
  | [] => []
  | v :: rest => texts v ++ itemTexts rest

def Json.memberTexts : List (String × Json) → List String
  | [] => []
  | (_, v) :: rest => texts v ++ memberTexts rest

end

theorem Json.texts_objSome (members : List (String × Option Json)) :
    (Json.objSome members).texts = members.flatMap fun m => m.2.toList.flatMap Json.texts := by
  rw [objSome, texts]
  induction members with
  | nil => rfl
  | cons m members ih =>
    obtain ⟨k, v⟩ := m
    cases v with
    | none => simpa using ih
    | some v => simp [memberTexts, ih]

theorem Friendly.texts_toJson (f : Friendly) : f.toJson.texts =
    [f.title, f.message] ++ f.suggestion.toList ++
      [f.technical, f.code, f.category.name, f.severity.name] ++
      f.channel.toList ++ f.operation.toList ++ f.resource.toList := by
  have htext (s : Option String) :
      (s.map Json.str).toList.flatMap Json.texts = s.toList := by
    cases s <;> simp [Json.texts]
  rw [toJson, Json.texts_objSome]
  simp [htext, Json.texts, Json.texts_objSome, Json.nat]

namespace Scrub

/-! ## Texts with home directories -/

def ShowsHome (text : String) : Prop := ∃ dir, HomeDirectory dir ∧ Shows text dir

/-- A home directory is between separators and has no delimiter. -/
theorem HomeDirectory.form {dir : List Char} (h : HomeDirectory dir) :
    (∃ w, dir = '/' :: w) ∧ (∃ w, dir = w ++ ['/']) ∧ ∀ c ∈ dir, isDelimiter c = false := by
  have hform {root user : List Char} (hroot : root.all (!isDelimiter ·))
      (h : IsName user) : ∀ c ∈ root ++ user ++ ['/'], isDelimiter c = false := by
    intro c hc
    rcases List.mem_append.1 hc with hc | hc
    · rcases List.mem_append.1 hc with hc | hc
      · simpa using List.all_eq_true.1 hroot c hc
      · exact (h.2 c hc).2
    · obtain rfl := List.mem_singleton.1 hc
      rfl
  cases h with
  | home h => exact ⟨⟨_, rfl⟩, ⟨_, rfl⟩, hform (by decide) h⟩
  | users h => exact ⟨⟨_, rfl⟩, ⟨_, rfl⟩, hform (by decide) h⟩

theorem HomeDirectory.ne_nil {dir : List Char} (h : HomeDirectory dir) : dir ≠ [] := by
  obtain ⟨⟨w, rfl⟩, _⟩ := h.form
  exact List.cons_ne_nil _ _

theorem HomeDirectory.delimiter_not_mem {dir : List Char} (h : HomeDirectory dir) {d : Char}
    (hd : isDelimiter d) : d ∉ dir := by
  intro hmem
  simp [h.form.2.2 d hmem] at hd

theorem not_showsHome_of_not_mem {text : String} (h : '/' ∉ text.toList) : ¬ ShowsHome text := by
  rintro ⟨dir, hdir, hshows⟩
  obtain ⟨⟨w, rfl⟩, _⟩ := hdir.form
  exact h (hshows.subset List.mem_cons_self)

theorem not_showsHome_message (limit : Nat) (text : String) : ¬ ShowsHome (message limit text) := by
  rintro ⟨dir, hdir, hshows⟩
  exact not_shows_message limit text (.home hdir) hshows

theorem not_showsHome_technical (limit : Nat) (text : String) :
    ¬ ShowsHome (technical limit text) :=
  not_showsHome_message _ text

variable {a b : String}

theorem showsHome_append_iff_left (hb : '/' ∉ b.toList) : ShowsHome (a ++ b) ↔ ShowsHome a := by
  constructor
  · rintro ⟨dir, hdir, hshows⟩
    obtain ⟨_, ⟨w, rfl⟩, _⟩ := hdir.form
    rw [Shows, String.toList_append] at hshows
    exact ⟨_, hdir, Text.infix_of_infix_append hshows hb⟩
  · rintro ⟨dir, hdir, hshows⟩
    refine ⟨dir, hdir, ?_⟩
    rw [Shows, String.toList_append]
    exact hshows.trans (List.prefix_append _ _).isInfix

theorem showsHome_append_iff_right (ha : '/' ∉ a.toList) : ShowsHome (a ++ b) ↔ ShowsHome b := by
  constructor
  · rintro ⟨dir, hdir, hshows⟩
    obtain ⟨⟨w, rfl⟩, _⟩ := hdir.form
    rw [Shows, String.toList_append] at hshows
    exact ⟨_, hdir, Text.infix_of_infix_append_left hshows ha⟩
  · rintro ⟨dir, hdir, hshows⟩
    refine ⟨dir, hdir, ?_⟩
    rw [Shows, String.toList_append]
    exact hshows.trans (List.suffix_append _ _).isInfix

/-- Whether no home directory begins in a text and ends in what follows it. -/
def Closed (a : String) : Prop := ∀ b, ShowsHome (a ++ b) ↔ ShowsHome a ∨ ShowsHome b

theorem closed_of_delimiter (a : String) {d : Char} (hd : isDelimiter d) :
    Closed (a ++ String.singleton d) := by
  intro b
  have hlist (dir : List Char) (hdir : HomeDirectory dir) :
      Shows (a ++ String.singleton d ++ b) dir ↔ Shows a dir ∨ Shows b dir := by
    rw [Shows, String.toList_append, String.toList_append, String.toList_singleton, List.append_assoc]
    exact Text.infix_append_cons_iff (hdir.delimiter_not_mem hd)
  have hmark : '/' ∉ (String.singleton d).toList := by
    rw [String.toList_singleton, List.mem_singleton]
    rintro rfl
    exact absurd hd (by decide)
  rw [showsHome_append_iff_left hmark]
  constructor
  · rintro ⟨dir, hdir, hshows⟩
    rcases (hlist dir hdir).1 hshows with hshows | hshows
    · exact .inl ⟨dir, hdir, hshows⟩
    · exact .inr ⟨dir, hdir, hshows⟩
  · rintro (⟨dir, hdir, hshows⟩ | ⟨dir, hdir, hshows⟩)
    · exact ⟨dir, hdir, (hlist dir hdir).2 (.inl hshows)⟩
    · exact ⟨dir, hdir, (hlist dir hdir).2 (.inr hshows)⟩

theorem closed_line (a : String) : Closed (a ++ "\n") := closed_of_delimiter a (d := '\n') rfl

theorem closed_word (a : String) : Closed (a ++ " ") := closed_of_delimiter a (d := ' ') rfl

theorem not_showsHome_empty : ¬ ShowsHome "" := not_showsHome_of_not_mem (by decide)

theorem closed_empty : Closed "" := by
  intro b
  simp [not_showsHome_empty]

theorem Closed.append (ha : Closed a) (hb : Closed b) : Closed (a ++ b) := by
  intro c
  rw [String.append_assoc, ha, hb, ha, or_assoc]

end Scrub

/-! ## On a terminal -/

namespace Terminal

open Scrub

variable {text : String}

theorem slash_not_mem_toDigits (n : Nat) : '/' ∉ Nat.toDigits 10 n := by
  intro h
  exact absurd (Nat.isDigit_of_mem_toDigits (by decide) (by decide) h) (by decide)

/-- Control sequences neither hide a directory nor make one. -/
theorem showsHome_between_controls {before after : String} (hbefore : '/' ∉ before.toList)
    (hafter : '/' ∉ after.toList) :
    ShowsHome (control before ++ text ++ control after) ↔ ShowsHome text := by
  have hcontrol {parameters : String} (h : '/' ∉ parameters.toList) :
      '/' ∉ (control parameters).toList := by
    simp [control, h]
  rw [showsHome_append_iff_left (hcontrol hafter), showsHome_append_iff_right (hcontrol hbefore)]

theorem showsHome_paint (color : Bool) (c : Color) (text : String) :
    ShowsHome (paint color c text) ↔ ShowsHome text := by
  cases color with
  | false => rfl
  | true =>
    refine showsHome_between_controls ?_ (by decide)
    simp [slash_not_mem_toDigits]

theorem showsHome_bold (text : String) : ShowsHome (bold text) ↔ ShowsHome text :=
  showsHome_between_controls (by decide) (by decide)

variable (theme : Theme) (color : Bool) (f : Friendly)

theorem closed_heading : Closed (heading theme color f) := closed_line _

theorem showsHome_heading :
    ShowsHome (heading theme color f) ↔ ShowsHome f.title ∨ ShowsHome f.code := by
  have hcode : ShowsHome ("[" ++ f.code ++ "]") ↔ ShowsHome f.code := by
    rw [showsHome_append_iff_left (by decide), showsHome_append_iff_right (by decide)]
  rw [heading, showsHome_append_iff_left (by decide), closed_word,
    showsHome_append_iff_left (by decide), showsHome_paint, hcode]
  cases color with
  | false => rfl
  | true => rw [if_pos rfl, showsHome_bold, showsHome_paint]

theorem closed_suggestionLine : Closed (suggestionLine theme color f) := by
  rw [suggestionLine]
  split
  · exact closed_line _
  · exact closed_empty

theorem showsHome_suggestionLine :
    ShowsHome (suggestionLine theme color f) ↔ ∃ s ∈ f.suggestion, ShowsHome s := by
  rw [suggestionLine]
  split
  · next s hs => rw [showsHome_append_iff_left (by decide), showsHome_paint]; simp [hs]
  · next hs => simp [hs, not_showsHome_empty]

theorem slash_not_mem_actionsLine : '/' ∉ (actionsLine f).toList := by
  rw [actionsLine, actions]
  cases f.retryable <;> cases f.dismissible <;> decide

theorem closed_actionsLine : Closed (actionsLine f) := by
  rw [actionsLine]
  split
  · exact closed_empty
  · exact closed_line _

theorem showsHome_join_detailLine (lines : List (List Char)) :
    ShowsHome (String.join (lines.map (detailLine theme color))) ↔
      ∃ line ∈ lines, ShowsHome (String.ofList line) := by
  induction lines with
  | nil => simp [not_showsHome_empty]
  | cons line lines ih =>
    rw [List.map_cons, String.join_cons, detailLine, closed_line, ih,
      showsHome_append_iff_left (by decide), showsHome_append_iff_right (by decide), showsHome_paint]
    simp

/-! ### Lines -/

theorem infix_trimReturn_iff {dir line : List Char} (h : HomeDirectory dir) :
    dir <:+: trimReturn line ↔ dir <:+: line := by
  rw [trimReturn]
  split
  · next hlast =>
    obtain ⟨front, rfl⟩ := List.getLast?_eq_some_iff.1 hlast
    obtain ⟨_, ⟨w, rfl⟩, _⟩ := h.form
    rw [List.dropLast_concat]
    constructor
    · intro hfront
      exact hfront.trans (List.prefix_append _ _).isInfix
    · intro hline
      exact Text.infix_of_infix_append hline (by decide)
  · rfl

/-- A directory stands in a text if and only if it stands in one of its lines. -/
theorem exists_line_iff (text : String) :
    (∃ line ∈ lines text.toList, ShowsHome (String.ofList line)) ↔ ShowsHome text := by
  have hlines {dir : List Char} (h : HomeDirectory dir) :
      (∃ line ∈ lines text.toList, dir <:+: line) ↔ dir <:+: text.toList := by
    have hbreak : ∀ c ∈ dir, decide (c = '\n') = false := by
      intro c hc
      refine decide_eq_false ?_
      rintro rfl
      exact h.delimiter_not_mem rfl hc
    rw [Text.infix_iff_runs h.ne_nil hbreak]
    rcases List.eq_nil_or_concat (Text.runs (· = '\n') text.toList) with hnil | ⟨front, last, hruns⟩
    · exact absurd hnil (Text.runs_ne_nil _ _)
    · have hlast : last ≠ [] ∧ dir <:+: last ↔ dir <:+: last := by
        refine and_iff_right_of_imp ?_
        rintro hshows rfl
        exact h.ne_nil (List.infix_nil.1 hshows)
      rw [lines, hruns, List.concat_eq_append, List.dropLast_concat, List.getLast?_concat]
      simp [or_and_right, exists_or, infix_trimReturn_iff h, hlast]
  constructor
  · rintro ⟨line, hline, dir, hdir, hshows⟩
    rw [Shows, String.toList_ofList] at hshows
    exact ⟨dir, hdir, (hlines hdir).1 ⟨line, hline, hshows⟩⟩
  · rintro ⟨dir, hdir, hshows⟩
    obtain ⟨line, hline, hfound⟩ := (hlines hdir).2 hshows
    exact ⟨line, hline, dir, hdir, by rwa [Shows, String.toList_ofList]⟩

theorem showsHome_technical_of_details (h : ShowsHome (details theme color f)) :
    ShowsHome f.technical := by
  rw [details] at h
  split at h
  · rwa [showsHome_append_iff_right (by decide), showsHome_join_detailLine, exists_line_iff] at h
  · exact absurd h not_showsHome_empty

/-- Everything but the details ends in a line break. -/
theorem showsHome_render : ShowsHome (render theme color f) ↔
    ShowsHome f.title ∨ ShowsHome f.code ∨ ShowsHome f.message ∨
      (∃ s ∈ f.suggestion, ShowsHome s) ∨ ShowsHome (details theme color f) := by
  have hmessage : Closed (heading theme color f ++ f.message ++ "\n") := closed_line _
  have hsuggestion := hmessage.append (closed_suggestionLine theme color f)
  have hactions := hsuggestion.append (closed_actionsLine f)
  rw [render, hactions, showsHome_append_iff_left (slash_not_mem_actionsLine f), hmessage,
    showsHome_append_iff_left (by decide), closed_heading, showsHome_heading,
    showsHome_suggestionLine]
  simp only [or_assoc]

end Terminal

/-! ## Templates of the catalog -/

namespace Catalog

theorem mem_of_get?_foldl {entries : List (String × Template)} {c : Catalog} {key : String}
    {t : Template} (h : (entries.foldl (fun c e => c.insert e.1 e.2) c).get? key = some t) :
    (key, t) ∈ entries ∨ c.get? key = some t := by
  induction entries generalizing c with
  | nil => exact .inr h
  | cons e entries ih =>
    rcases ih h with hmem | hget
    · exact .inl (List.mem_cons_of_mem _ hmem)
    · rw [get?_insert] at hget
      split at hget
      · next hkey =>
        cases hget
        exact .inl (hkey ▸ List.mem_cons_self)
      · exact .inr hget

theorem entry_of_get?_builtin {key : String} {t : Template} (h : builtin.get? key = some t) :
    t = unknownTemplate ∨ (key, t) ∈ builtinTemplates := by
  rcases mem_of_get?_foldl h with hmem | hget
  · exact .inr hmem
  · rw [get?_empty] at hget
    split at hget
    · cases hget
      exact .inl rfl
    · cases hget

theorem mem_of_get?_builtin {key : String} {t : Template} (h : builtin.get? key = some t) :
    t = unknownTemplate ∨ t ∈ builtinTemplates.map (·.2) :=
  (entry_of_get?_builtin h).imp_right fun hmem => List.mem_map_of_mem hmem

theorem slash_not_mem_title {t : Template}
    (h : t = unknownTemplate ∨ t ∈ builtinTemplates.map (·.2)) : '/' ∉ t.title.toList := by
  rcases h with rfl | h
  · decide
  · have hall : ∀ t ∈ builtinTemplates.map (·.2), '/' ∉ t.title.toList := by decide
    exact hall t h

end Catalog

/-! ## What a user is told -/

namespace Translator

open Scrub

/-- The template whose title is told is one of the catalog. -/
theorem slash_not_mem_title_translate (rules : List Rule) (environment : Environment) (limit : Nat)
    (f : Failure) (s : Situation) :
    '/' ∉ ((Translator.mk .builtin rules environment limit).translate f s).title.toList := by
  have hunknown : Catalog.builtin.unknown = Catalog.unknownTemplate ∨
      Catalog.builtin.unknown ∈ Catalog.builtinTemplates.map (·.2) := by
    rw [Catalog.unknown]
    cases hget : Catalog.builtin.get? Catalog.unknownKey with
    | none => exact .inl rfl
    | some t => exact Catalog.mem_of_get?_builtin hget
  refine Catalog.slash_not_mem_title ?_
  cases hget : Catalog.builtin.get? ((Translator.mk .builtin rules environment limit).classify f) with
  | none => exact hunknown
  | some t => exact Catalog.mem_of_get?_builtin hget

theorem slash_not_mem_names (f : Friendly) :
    '/' ∉ f.category.name.toList ∧ '/' ∉ f.severity.name.toList := by
  constructor
  · cases f.category <;> decide
  · cases f.severity <;> decide

/-- With the built-in catalog, the texts of what a user is told that show a home directory are the
code, the channel and the operation, if these do; of the lines on a terminal one shows a home
directory if and only if the code does. -/
theorem showsHome_iff (rules : List Rule) (environment : Environment) (limit : Nat) (f : Failure)
    (s : Situation) :
    let told := (Translator.mk .builtin rules environment limit).translate f s
    (∀ text, text ∈ told.toJson.texts ∧ ShowsHome text ↔
      (text = f.code ∨ text ∈ s.channel ∨ text ∈ s.operation.or f.operation) ∧ ShowsHome text) ∧
    ∀ theme color,
      (∃ line ∈ Terminal.lines (Terminal.render theme color told).toList,
        ShowsHome (String.ofList line)) ↔ ShowsHome f.code := by
  intro told
  have htitle : ¬ ShowsHome told.title :=
    not_showsHome_of_not_mem (slash_not_mem_title_translate rules environment limit f s)
  have hmessage : ¬ ShowsHome told.message := not_showsHome_message _ _
  have htechnical : ¬ ShowsHome told.technical := not_showsHome_technical _ _
  have hsuggestion : ∀ text ∈ told.suggestion, ¬ ShowsHome text := by
    intro text htext
    obtain ⟨suggestion, _, rfl⟩ := Option.map_eq_some_iff.1 htext
    exact not_showsHome_message _ _
  have hresource : ∀ text ∈ told.resource, ¬ ShowsHome text := by
    intro text htext
    obtain ⟨resource, _, rfl⟩ := Option.map_eq_some_iff.1 htext
    exact not_showsHome_message _ _
  have hnames := slash_not_mem_names told
  constructor
  · intro text
    refine and_congr_left fun hshows => ?_
    have hne (other : String) (h : ¬ ShowsHome other) : text ≠ other := by
      rintro rfl
      exact h hshows
    have hcategory := hne _ (not_showsHome_of_not_mem hnames.1)
    have hseverity := hne _ (not_showsHome_of_not_mem hnames.2)
    have hsuggested : told.suggestion ≠ some text := fun h => hsuggestion text h hshows
    have hlocated : told.resource ≠ some text := fun h => hresource text h hshows
    rw [Friendly.texts_toJson]
    simp only [List.mem_append, List.mem_cons, List.not_mem_nil, Option.mem_toList, hne _ htitle,
      hne _ hmessage, hne _ htechnical, hcategory, hseverity, hsuggested, hlocated, or_false,
      false_or, or_assoc]
    rfl
  · intro theme color
    have hdetails : ¬ ShowsHome (Terminal.details theme color told) := fun h =>
      htechnical (Terminal.showsHome_technical_of_details theme color told h)
    have hnone : ¬ ∃ text ∈ told.suggestion, ShowsHome text := by
      rintro ⟨text, htext, hshows⟩
      exact hsuggestion text htext hshows
    rw [Terminal.exists_line_iff, Terminal.showsHome_render]
    simp only [htitle, hmessage, hnone, hdetails, false_or, or_false]
    rfl

/-- A page could not be copied. Code and operation come from another process. -/
def copying : Failure :=
  { Failure.make default "build failed" "/home/dana/site" .website with
    operation := some "copy /home/dana/site/index.md" }

theorem copying_shows_home : ShowsHome copying.code :=
  ⟨"/home/dana/".toList, @HomeDirectory.home "dana".toList (isName_of_all (by decide) (by decide)), [],
    "site".toList, rfl⟩

/-- Not every text that a user is told is scrubbed, nor is every line on a terminal. -/
theorem code_told_as_it_came :
    ¬ (∀ text ∈ (({} : Translator).translate copying {}).toJson.texts, ¬ ShowsHome text) ∧
    ¬ ∀ line ∈ Terminal.lines
        (Terminal.render {} false (({} : Translator).translate copying {})).toList,
      ¬ ShowsHome (String.ofList line) := by
  constructor
  · intro hscrubbed
    refine hscrubbed copying.code ?_ copying_shows_home
    rw [Friendly.texts_toJson]
    exact List.mem_append_left _ (List.mem_append_left _ (List.mem_append_left _
      (List.mem_append_right _ (.tail _ (.head _)))))
  · intro hscrubbed
    obtain ⟨line, hline, hshows⟩ := (Terminal.exists_line_iff _).2
      ((Terminal.showsHome_render {} false (({} : Translator).translate copying {})).2
        (.inr (.inl copying_shows_home)))
    exact hscrubbed line hline hshows

end Translator

end Resilience
