import Resilience.Friendly.Basic
import Resilience.Proofs.Friendly.Paths

/-!
# Texts that scrubbing leaves alone

Paths are made with separators, and secrets stand after an equals sign or a colon. A text with none
of these is told as it is (`Scrub.message_eq_self`).
-/

namespace Resilience.Scrub

/-- Whether a character can be the reason for a change. -/
def isTrigger (c : Char) : Bool := isSeparator c || c = '=' || c = ':'

variable {cs : List Char}

theorem Family.not_begins_of_no_separator {f : Family} (h : ∀ c ∈ cs, isSeparator c = false) :
    ¬ f.Begins cs := by
  rintro ⟨head, hhead, hbegins⟩
  have hok := f.isHead head hhead
  rw [beginsWith_append, Bool.and_eq_true] at hbegins
  have hend : ∀ d ∈ ([] : List Char).head?, isDelimiter d := by simp
  have hnot := not_beginsWith_of_not_isSeparator hok.ne_nil hok.inPath hok.separator_of_last h hend
  rw [List.append_nil] at hnot
  exact hnot hbegins.1

theorem Family.strip_eq_self (f : Family) (h : ∀ c ∈ cs, isSeparator c = false) :
    f.strip cs = cs := by
  induction cs with
  | nil => exact strip_nil
  | cons c cs ih =>
    rw [strip_of_not_begins (not_begins_of_no_separator h),
      ih fun d hd => h d (List.mem_cons_of_mem _ hd)]

theorem stripChars_eq_self (h : ∀ c ∈ cs, isSeparator c = false) : stripChars cs = cs := by
  rw [stripChars, temporary.strip_eq_self h, home.strip_eq_self h, drive.strip_eq_self h]

/-- There is no secret without a mark after its key. -/
theorem secretAt_eq_none {before : Option Char} (h : ∀ c ∈ cs, c ≠ '=' ∧ c ≠ ':') :
    secretAt before cs = none := by
  unfold secretAt
  dsimp only
  split
  · split
    · split
      · next mark rest hrest =>
        have hmark : mark ∈ cs :=
          List.mem_of_mem_drop (List.mem_of_mem_drop (hrest ▸ List.mem_cons_self))
        simp [h mark hmark]
      · rfl
    · rfl
  · rfl

theorem redactChars_eq_self {before : Option Char} (h : ∀ c ∈ cs, c ≠ '=' ∧ c ≠ ':') :
    redactChars before cs = cs := by
  induction cs generalizing before with
  | nil => rw [redactChars]
  | cons c cs ih =>
    rw [redactChars, secretAt_eq_none h]
    dsimp only
    rw [ih fun d hd => h d (List.mem_cons_of_mem _ hd)]

theorem scrub_eq_self {text : String} (h : text.toList.all (!isTrigger ·)) : scrub text = text := by
  simp only [List.all_eq_true, isTrigger, Bool.not_eq_true', Bool.or_eq_false_iff,
    decide_eq_false_iff_not] at h
  rw [scrub, redactSecrets, redactChars_eq_self fun c hc => ⟨(h c hc).1.2, (h c hc).2⟩,
    String.ofList_toList, stripPaths, stripChars_eq_self fun c hc => (h c hc).1.1,
    String.ofList_toList]

/-- A text that is short enough and has nothing to scrub is told as it is. -/
theorem message_eq_self {text : String} {limit : Nat} (h : text.toList.all (!isTrigger ·))
    (hlimit : text.length ≤ limit) : message limit text = text := by
  rw [message, scrub_eq_self h, truncate, String.length_toList, if_pos hlimit]

end Resilience.Scrub
