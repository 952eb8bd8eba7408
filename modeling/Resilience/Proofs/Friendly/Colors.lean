import Resilience.Friendly.Terminal
import Resilience.Proofs.Friendly.Words

/-!
# Colours on a terminal

A rendering in colours is the plain one with control sequences put in: without them it is the plain
one again (`Terminal.erase_render`). This is so part by part, whatever follows a part
(`Terminal.Leaves`), since the texts between the sequences have no escape characters of their own.
-/

namespace Resilience.Terminal

/-! ## Deleting control sequences -/

/-- What follows the control sequence with which a text begins. The first `m` ends it. -/
def behindControl? : List Char → Option (List Char)
  | '\x1b' :: '[' :: rest =>
    match rest.dropWhile (· ≠ 'm') with
    | _ :: behind => some behind
    | [] => none
  | _ => none

theorem length_behindControl? {text behind : List Char} (h : behindControl? text = some behind) :
    behind.length < text.length := by
  unfold behindControl? at h
  split at h
  · next rest =>
    have hdrop := (List.dropWhile_sublist (l := rest) (· ≠ 'm')).length_le
    split at h
    · next heq =>
      cases h
      rw [heq, List.length_cons] at hdrop
      simp only [List.length_cons]
      omega
    · cases h
  · cases h

/-- A text without its control sequences. -/
def erase (text : List Char) : List Char :=
  match text with
  | [] => []
  | c :: rest =>
    match _ : behindControl? (c :: rest) with
    | some behind => erase behind
    | none => c :: erase rest
termination_by text.length
decreasing_by
  · exact length_behindControl? ‹_›
  · simp

theorem behindControl?_cons {c : Char} (h : c ≠ '\x1b') (rest : List Char) :
    behindControl? (c :: rest) = none := by
  unfold behindControl?
  split
  · next heq => exact absurd (List.cons.inj heq).1 h
  · rfl

/-- A text without escape characters stays as it is. -/
theorem erase_append {text : List Char} (h : '\x1b' ∉ text) (rest : List Char) :
    erase (text ++ rest) = text ++ erase rest := by
  induction text with
  | nil => rfl
  | cons c text ih =>
    rw [List.mem_cons, not_or] at h
    rw [List.cons_append, erase, behindControl?_cons (Ne.symm h.1), ih h.2, List.cons_append]

theorem erase_control {parameters : String} (h : 'm' ∉ parameters.toList) (rest : List Char) :
    erase ((control parameters).toList ++ rest) = erase rest := by
  have hparameters : ∀ c ∈ parameters.toList, decide (c ≠ 'm') = true := by
    intro c hc
    refine decide_eq_true ?_
    rintro rfl
    exact h hc
  have hbehind : behindControl? ('\x1b' :: '[' :: (parameters.toList ++ 'm' :: rest)) = some rest := by
    rw [behindControl?, List.dropWhile_append_of_pos hparameters]
    rfl
  have hcontrol : (control parameters).toList ++ rest =
      '\x1b' :: '[' :: (parameters.toList ++ 'm' :: rest) := by
    simp [control]
  rw [hcontrol, erase, hbehind]

/-- A sequence that does not end is none. -/
example : erase "\x1b[1mDisk \x1b[31mFull\x1b[39m\x1b[0m [m\x1b[3".toList =
    "Disk Full [m\x1b[3".toList := by cbv

/-! ## The parts of a rendering -/

/-- Without its control sequences the first text is the second one, whatever follows it; and the
second one has no escape characters. -/
structure Leaves (a b : String) : Prop where
  erase : ∀ rest, erase (a.toList ++ rest) = b.toList ++ erase rest
  plain : '\x1b' ∉ b.toList

section

variable {a b a' b' : String}

theorem leaves_self (h : '\x1b' ∉ a.toList) : Leaves a a := ⟨erase_append h, h⟩

theorem Leaves.append (h : Leaves a b) (h' : Leaves a' b') : Leaves (a ++ a') (b ++ b') where
  erase rest := by
    rw [String.toList_append, List.append_assoc, h.erase, h'.erase, String.toList_append,
      List.append_assoc]
  plain := by
    rw [String.toList_append, List.mem_append, not_or]
    exact ⟨h.plain, h'.plain⟩

theorem Leaves.between {before after : String} (h : Leaves a b) (hbefore : 'm' ∉ before.toList)
    (hafter : 'm' ∉ after.toList) : Leaves (control before ++ a ++ control after) b where
  erase rest := by
    rw [String.toList_append, String.toList_append, List.append_assoc, List.append_assoc,
      erase_control hbefore, h.erase, erase_control hafter]
  plain := h.plain

theorem m_not_mem_toDigits (n : Nat) : 'm' ∉ Nat.toDigits 10 n := by
  intro h
  exact absurd (Nat.isDigit_of_mem_toDigits (by decide) (by decide) h) (by decide)

theorem Leaves.colored (h : Leaves a b) (c : Color) : Leaves (colored c a) b := by
  refine h.between ?_ (by decide)
  simp [m_not_mem_toDigits]

theorem Leaves.bold (h : Leaves a b) : Leaves (bold a) b := h.between (by decide) (by decide)

end

theorem mem_lines {text line : List Char} (h : line ∈ lines text) {c : Char} (hc : c ∈ line) :
    c ∈ text := by
  rw [lines, List.mem_append, List.mem_map] at h
  rcases h with ⟨piece, hpiece, rfl⟩ | hlast
  · have hpiece := List.mem_of_mem_dropLast hpiece
    refine Scrub.mem_of_mem_runs hpiece c ?_
    rw [trimReturn] at hc
    split at hc
    · exact List.mem_of_mem_dropLast hc
    · exact hc
  · rw [Option.mem_toList, Option.filter_eq_some_iff] at hlast
    exact Scrub.mem_of_mem_runs (List.mem_of_getLast? hlast.1) c hc

variable (theme other : Theme) {f : Friendly}

theorem leaves_heading (htitle : '\x1b' ∉ f.title.toList) (hcode : '\x1b' ∉ f.code.toList) :
    Leaves (heading theme true f) (heading other false f) := by
  have hbrackets : '\x1b' ∉ ("[" ++ f.code ++ "]").toList := by
    simp [hcode]
  exact ((((leaves_self htitle).colored _).bold.append (leaves_self (by decide))).append
    ((leaves_self hbrackets).colored _)).append (leaves_self (by decide))

theorem leaves_suggestionLine (h : ∀ s ∈ f.suggestion, '\x1b' ∉ s.toList) :
    Leaves (suggestionLine theme true f) (suggestionLine other false f) := by
  rw [suggestionLine, suggestionLine]
  split
  · next s hs => exact ((leaves_self (h s hs)).colored _).append (leaves_self (by decide))
  · exact leaves_self (by decide)

theorem leaves_detailLine {line : List Char} (h : '\x1b' ∉ line) :
    Leaves (detailLine theme true line) (detailLine other false line) := by
  have hline : '\x1b' ∉ (String.ofList line).toList := by
    rwa [String.toList_ofList]
  exact ((leaves_self (by decide)).append ((leaves_self hline).colored _)).append
    (leaves_self (by decide))

theorem leaves_join_detailLine {list : List (List Char)} (h : ∀ line ∈ list, '\x1b' ∉ line) :
    Leaves (String.join (list.map (detailLine theme true)))
      (String.join (list.map (detailLine other false))) := by
  induction list with
  | nil => exact leaves_self (a := "") (by decide)
  | cons line list ih =>
    obtain ⟨hline, hlist⟩ := List.forall_mem_cons.1 h
    rw [List.map_cons, List.map_cons, String.join_cons, String.join_cons]
    exact (leaves_detailLine theme other hline).append (ih hlist)

theorem leaves_details (h : f.showDetails = true → '\x1b' ∉ f.technical.toList) :
    Leaves (details theme true f) (details other false f) := by
  rw [details, details]
  split
  · next hshow =>
    refine (leaves_self (by decide)).append (leaves_join_detailLine theme other ?_)
    exact fun line hline hescape => h hshow (mem_lines hline hescape)
  · exact leaves_self (by decide)

theorem leaves_actionsLine (f : Friendly) : Leaves (actionsLine f) (actionsLine f) := by
  refine leaves_self ?_
  rw [actionsLine, actions]
  cases f.retryable <;> cases f.dismissible <;> decide

/-- The texts of a failure that are rendered. -/
def shown (f : Friendly) : List String :=
  [f.title, f.code, f.message] ++ f.suggestion.toList ++
    if f.showDetails then [f.technical] else []

/-- Without its control sequences a rendering in colours is the plain one, whatever the colours, if
the texts that are rendered have no escape characters; and the plain one has none. -/
theorem erase_render (theme other : Theme) (f : Friendly)
    (h : ∀ text ∈ shown f, '\x1b' ∉ text.toList) :
    erase (render theme true f).toList = (render other false f).toList ∧
      '\x1b' ∉ (render other false f).toList := by
  have htitle := h f.title (by simp [shown])
  have hcode := h f.code (by simp [shown])
  have hmessage := h f.message (by simp [shown])
  have hsuggestion : ∀ s ∈ f.suggestion, '\x1b' ∉ s.toList :=
    fun s hs => h s (by simp [shown, Option.mem_def.1 hs])
  have htechnical : f.showDetails = true → '\x1b' ∉ f.technical.toList :=
    fun hshow => h f.technical (by simp [shown, hshow])
  have hfront := (leaves_heading theme other htitle hcode).append (leaves_self hmessage)
  have hline := hfront.append (leaves_self (a := "\n") (by decide))
  have hadvice := hline.append (leaves_suggestionLine theme other hsuggestion)
  have hactions := hadvice.append (leaves_actionsLine f)
  have hrender : Leaves (render theme true f) (render other false f) :=
    hactions.append (leaves_details theme other htechnical)
  have herase := hrender.erase []
  rw [List.append_nil, erase, List.append_nil] at herase
  exact ⟨herase, hrender.plain⟩

/-- A failure whose technical text has two lines and no break at its end. -/
def diskFull : Friendly where
  title := "Disk Full"
  message := "There is no space."
  suggestion := some "Free [1m some."
  technical := "[ENOSPC] full\r\nat save"
  code := "ENOSPC"
  category := .fileSystem
  severity := .high
  retryable := true
  dismissible := true
  showDetails := true
  channel := none
  operation := none
  resource := none
  retryCount := 0
  failure := Failure.make default "full" "ENOSPC" .fileSystem

theorem erase_render_diskFull :
    (∀ text ∈ shown diskFull, '\x1b' ∉ text.toList) ∧
    '\x1b' ∈ (render {} true diskFull).toList ∧
    erase (render {} true diskFull).toList = ("Disk Full [ENOSPC]\nThere is no space.\n" ++
      "Free [1m some.\nActions: retry, dismiss\n\n  [ENOSPC] full\n  at save\n").toList := by
  have hshown : ∀ text ∈ shown diskFull, '\x1b' ∉ text.toList := by decide
  have hlines : lines diskFull.technical.toList = ["[ENOSPC] full".toList, "at save".toList] := by
    decide
  refine ⟨hshown, by simp [render, heading, bold, control], ?_⟩
  rw [(erase_render {} {} diskFull hshown).1]
  have hdetails : details {} false diskFull = "\n  [ENOSPC] full\n  at save\n" := by
    rw [details, hlines]
    rfl
  rw [render, hdetails]
  rfl

end Resilience.Terminal
