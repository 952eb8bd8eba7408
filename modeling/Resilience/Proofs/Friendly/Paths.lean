import Mathlib.Data.List.Forall2
import Mathlib.Data.List.TakeWhile
import Resilience.Friendly.Scrub

/-!
# Texts without paths

A path of a family is everything up to the next delimiter (`Family.pathAt_eq_some`), and what it is
reduced to has no separator (`isSeparator_of_mem_reduce`). So a path that begins in a text whose
paths of a family are reduced began in the text before (`Family.begins_strip`), where it was not one
of them: the text has no path of the family left (`Family.absent_strip`), and none of another family
that it did not have before (`Family.Absent.strip`).
-/

namespace Resilience.Scrub

/-- Characters of which paths are made. -/
def inPath (c : Char) : Bool := !isDelimiter c

/-! ## Where a path begins -/

theorem beginsWith_append (ps qs : List (Char → Bool)) (cs : List Char) :
    beginsWith (ps ++ qs) cs = (beginsWith ps cs && beginsWith qs (cs.drop ps.length)) := by
  induction ps generalizing cs with
  | nil => simp [beginsWith]
  | cons p ps ih =>
    cases cs with
    | nil => simp [beginsWith]
    | cons c cs => simp [beginsWith, ih, Bool.and_assoc]

theorem beginsWith_iff {ps : List (Char → Bool)} {cs : List Char} : beginsWith ps cs ↔
    ∃ word rest, cs = word ++ rest ∧ List.Forall₂ (fun p c => p c) ps word := by
  induction ps generalizing cs with
  | nil => exact iff_of_true rfl ⟨[], cs, rfl, .nil⟩
  | cons p ps ih =>
    constructor
    · intro h
      cases cs with
      | nil => cases h
      | cons c cs =>
        rw [beginsWith, Bool.and_eq_true] at h
        obtain ⟨word, rest, rfl, hword⟩ := ih.1 h.2
        exact ⟨c :: word, rest, rfl, .cons h.1 hword⟩
    · rintro ⟨_, rest, rfl, hword⟩
      cases hword with
      | cons hc hword =>
        rw [List.cons_append, beginsWith, Bool.and_eq_true]
        exact ⟨hc, ih.2 ⟨_, rest, rfl, hword⟩⟩

/-- What passes the tests of a head is in the path. -/
theorem inPath_of_mem_take {ps : List (Char → Bool)} {cs : List Char}
    (hps : ∀ p ∈ ps, ∀ c, p c → inPath c) (h : beginsWith ps cs) :
    ∀ c ∈ cs.take ps.length, inPath c := by
  induction ps generalizing cs with
  | nil => simp
  | cons p ps ih =>
    cases cs with
    | nil => simp
    | cons c cs =>
      simp only [beginsWith, Bool.and_eq_true] at h
      intro d hd
      rcases List.mem_cons.1 (by simpa using hd) with rfl | hd
      · exact hps p List.mem_cons_self d h.1
      · exact ih (fun q hq => hps q (List.mem_cons_of_mem _ hq)) h.2 d hd

theorem IsHead.inPath {head : List (Char → Bool)} (h : IsHead head) :
    ∀ p ∈ head, ∀ c, p c → inPath c := by
  intro p hp c hc
  simp [Scrub.inPath, h.not_delimiter p hp c hc]

namespace Family

variable {f g : Family} {cs path : List Char}

/-- Whether a path of the family begins where the text does. -/
def Begins (f : Family) (cs : List Char) : Prop :=
  ∃ head ∈ f.heads, beginsWith (head ++ [inPath]) cs

theorem not_begins_nil : ¬ f.Begins [] := by
  rintro ⟨head, _, h⟩
  cases head <;> simp [beginsWith] at h

theorem Begins.inPath {c : Char} (h : f.Begins (c :: cs)) : inPath c := by
  obtain ⟨head, hhead, h⟩ := h
  have hne := (f.isHead head hhead).ne_nil
  cases head with
  | nil => exact absurd rfl hne
  | cons p head =>
    simp only [List.cons_append, beginsWith, Bool.and_eq_true] at h
    exact (f.isHead _ hhead).inPath p List.mem_cons_self c h.1

theorem pathAt_eq_none : f.pathAt cs = none ↔ ¬ f.Begins cs := by
  have hnone (head : List (Char → Bool)) : (if beginsWith head cs then
      if ((cs.drop head.length).takeWhile fun c => !isDelimiter c).isEmpty then none
      else some (cs.take head.length ++ (cs.drop head.length).takeWhile fun c => !isDelimiter c)
      else none) = none ↔ ¬ beginsWith (head ++ [Scrub.inPath]) cs := by
    rw [beginsWith_append]
    cases hrest : cs.drop head.length with
    | nil => simp [beginsWith]
    | cons c rest => cases hc : isDelimiter c <;> simp [beginsWith, Scrub.inPath, hc]
  simp only [pathAt, List.findSome?_eq_none_iff, Begins, not_exists, not_and]
  exact forall_congr' fun head => imp_congr_right fun _ => hnone head

/-- A path is what a text begins with, up to the first delimiter. -/
theorem pathAt_eq_some (h : f.pathAt cs = some path) : path = cs.takeWhile inPath := by
  obtain ⟨head, hhead, h⟩ := List.exists_of_findSome?_eq_some h
  dsimp only at h
  split at h
  · next hbegins =>
    split at h
    · cases h
    · cases h
      have hin := inPath_of_mem_take (f.isHead head hhead).inPath hbegins
      conv => rhs; rw [← List.take_append_drop head.length cs]
      rw [List.takeWhile_append_of_pos hin]
      rfl
  · cases h

end Family

/-! ## What a path is reduced to -/

theorem drop_length_of_append {cs front rest : List Char} (h : cs = front ++ rest) :
    cs.drop front.length = rest := by
  rw [h, List.drop_left]

theorem drop_length_trimTail (path : List Char) :
    path.drop (trimTail path).length = (path.reverse.takeWhile isTail).reverse := by
  refine drop_length_of_append ?_
  rw [trimTail, ← List.reverse_append, List.takeWhile_append_dropWhile, List.reverse_reverse]

theorem isSeparator_of_mem_names {path name : List Char} (h : name ∈ names path) :
    ∀ c ∈ name, isSeparator c = false :=
  Text.isBreak_of_mem_runs (List.mem_filter.1 h).1

theorem isSeparator_of_mem_reduce {depth : Nat} {path : List Char} :
    ∀ c ∈ reduce depth path, isSeparator c = false := by
  have hlast : ∀ c ∈ (names (trimTail path)).getLastD ['~'], isSeparator c = false := by
    rw [List.getLastD_eq_getLast?]
    cases hname : (names (trimTail path)).getLast? with
    | none => simp [isSeparator]
    | some name => exact isSeparator_of_mem_names (List.mem_of_getLast? hname)
  intro c hc
  rw [reduce, drop_length_trimTail] at hc
  rcases List.mem_append.1 hc with hc | hc
  · split at hc
    · exact hlast c hc
    · obtain rfl := List.mem_singleton.1 hc
      rfl
  · have htail := List.mem_takeWhile_imp (List.mem_reverse.1 hc)
    simp only [isTail, Bool.or_eq_true, decide_eq_true_eq] at htail
    rcases htail with rfl | rfl <;> rfl

/-! ## Reducing -/

namespace Family

variable {f g : Family} {cs : List Char}

@[simp] theorem strip_nil : f.strip [] = [] := by
  rw [strip]

theorem strip_of_not_begins {c : Char} (h : ¬ f.Begins (c :: cs)) :
    f.strip (c :: cs) = c :: f.strip cs := by
  rw [strip, pathAt_eq_none.2 h]

theorem strip_of_begins (h : f.Begins cs) :
    f.strip cs = reduce f.depth (cs.takeWhile inPath) ++ f.strip (cs.dropWhile inPath) := by
  cases cs with
  | nil => exact absurd h not_begins_nil
  | cons c cs =>
    cases hpath : f.pathAt (c :: cs) with
    | none => exact absurd h (pathAt_eq_none.1 hpath)
    | some path =>
      obtain rfl := pathAt_eq_some hpath
      have hrest : cs.drop (cs.takeWhile inPath).length = cs.dropWhile inPath :=
        drop_length_of_append List.takeWhile_append_dropWhile.symm
      rw [strip, hpath]
      simp only [List.takeWhile_cons_of_pos h.inPath, List.dropWhile_cons_of_pos h.inPath,
        List.length_cons, Nat.add_sub_cancel, hrest]

/-- A text is gone through path by path and, between the paths, character by character. -/
theorem strip_induction (f : Family) {motive : List Char → Prop} (nil : motive [])
    (path : ∀ cs, f.Begins cs → motive (cs.dropWhile inPath) → motive cs)
    (char : ∀ c cs, ¬ f.Begins (c :: cs) → motive cs → motive (c :: cs)) (cs : List Char) :
    motive cs := by
  cases cs with
  | nil => exact nil
  | cons c cs =>
    by_cases h : f.Begins (c :: cs)
    · have hlt : ((c :: cs).dropWhile inPath).length < (c :: cs).length := by
        rw [List.dropWhile_cons_of_pos h.inPath, List.length_cons]
        exact Nat.lt_succ_of_le (List.length_dropWhile_le ..)
      exact path _ h (strip_induction f nil path char _)
    · exact char c cs h (strip_induction f nil path char cs)
termination_by cs.length
decreasing_by
  · exact hlt
  · exact Nat.lt_succ_self _

/-- A path ends where the text does, or before a delimiter. -/
theorem isDelimiter_of_head?_strip :
    ∀ d ∈ (f.strip (cs.dropWhile inPath)).head?, isDelimiter d := by
  cases hrest : cs.dropWhile inPath with
  | nil => simp
  | cons d rest =>
    have hd : ¬ inPath d := by
      have := List.head?_dropWhile_not inPath cs
      rw [hrest] at this
      simpa using this
    rw [strip_of_not_begins fun h => hd h.inPath]
    simpa [inPath] using hd

end Family

/-- The tests of a head end with one for a separator, so they fail on what has none before the next
delimiter. -/
theorem not_beginsWith_of_not_isSeparator {ps : List (Char → Bool)} {name rest : List Char}
    (hne : ps ≠ []) (hps : ∀ p ∈ ps, ∀ c, p c → inPath c)
    (hlast : ∀ p ∈ ps.getLast?, ∀ c, p c → isSeparator c)
    (hname : ∀ c ∈ name, isSeparator c = false) (hrest : ∀ d ∈ rest.head?, isDelimiter d) :
    ¬ beginsWith ps (name ++ rest) := by
  induction ps generalizing name with
  | nil => exact absurd rfl hne
  | cons p ps ih =>
    intro h
    cases name with
    | nil =>
      cases rest with
      | nil => simp [beginsWith] at h
      | cons d rest =>
        simp only [List.nil_append, beginsWith, Bool.and_eq_true] at h
        have hin := hps p List.mem_cons_self d h.1
        simp [inPath, hrest d rfl] at hin
    | cons c name =>
      simp only [List.cons_append, beginsWith, Bool.and_eq_true] at h
      cases ps with
      | nil =>
        have hsep := hlast p rfl c h.1
        simp [hname c List.mem_cons_self] at hsep
      | cons q ps =>
        exact ih (List.cons_ne_nil _ _) (fun r hr => hps r (List.mem_cons_of_mem _ hr))
          (fun r hr => hlast r (by simpa using hr))
          (fun d hd => hname d (List.mem_cons_of_mem _ hd)) h.2

namespace Family

variable {f g : Family} {cs : List Char}

/-- No path begins in what a path was reduced to. -/
theorem not_begins_reduced {name : List Char} (hname : ∀ c ∈ name, isSeparator c = false) :
    ¬ f.Begins (name ++ g.strip (cs.dropWhile inPath)) := by
  rintro ⟨head, hhead, h⟩
  have hok := f.isHead head hhead
  rw [beginsWith_append, Bool.and_eq_true] at h
  exact not_beginsWith_of_not_isSeparator hok.ne_nil hok.inPath hok.separator_of_last hname
    isDelimiter_of_head?_strip h.1

/-- The tests are any that a head ends with, for the induction. -/
theorem beginsWith_strip {ps : List (Char → Bool)} (hps : ∀ p ∈ ps, ∀ c, p c → inPath c)
    (hlast : ∀ p ∈ ps.getLast?, ∀ c, p c → isSeparator c)
    (h : beginsWith (ps ++ [inPath]) (g.strip cs)) : beginsWith (ps ++ [inPath]) cs := by
  induction cs using strip_induction g generalizing ps with
  | nil =>
    rw [strip_nil] at h
    exact h
  | path cs hbegins ih =>
    cases ps with
    | nil =>
      cases cs with
      | nil => exact absurd hbegins not_begins_nil
      | cons c cs => simp [beginsWith, hbegins.inPath]
    | cons p ps =>
      rw [strip_of_begins hbegins, beginsWith_append, Bool.and_eq_true] at h
      exact absurd h.1 (not_beginsWith_of_not_isSeparator (List.cons_ne_nil _ _) hps hlast
        isSeparator_of_mem_reduce isDelimiter_of_head?_strip)
  | char c cs hbegins ih =>
    rw [strip_of_not_begins hbegins] at h
    cases ps with
    | nil => simpa [beginsWith] using h
    | cons p ps =>
      simp only [List.cons_append, beginsWith, Bool.and_eq_true] at h ⊢
      refine ⟨h.1, ih (fun q hq => hps q (List.mem_cons_of_mem _ hq)) (fun q hq => ?_) h.2⟩
      cases ps with
      | nil => cases hq
      | cons r ps => exact hlast q (by simpa using hq)

theorem begins_strip (h : f.Begins (g.strip cs)) : f.Begins cs := by
  obtain ⟨head, hhead, h⟩ := h
  have hok := f.isHead head hhead
  exact ⟨head, hhead, beginsWith_strip hok.inPath hok.separator_of_last h⟩

/-- Where a path begins in a text without the paths of another family, one began in the text before,
and it was none of them. -/
theorem exists_begins_of_strip {ys : List Char} (hys : ys <:+ g.strip cs) (h : f.Begins ys) :
    ∃ zs, zs <:+ cs ∧ f.Begins zs ∧ ¬ g.Begins zs := by
  induction cs using strip_induction g with
  | nil =>
    rw [strip_nil, List.suffix_nil] at hys
    exact absurd (hys ▸ h) not_begins_nil
  | path cs hbegins ih =>
    rw [strip_of_begins hbegins] at hys
    obtain ⟨front, hfront⟩ := hys
    rcases List.append_eq_append_iff.1 hfront with ⟨name, hname, rfl⟩ | ⟨_, _, hys⟩
    · have hseparator : ∀ c ∈ name, isSeparator c = false := fun c hc =>
        isSeparator_of_mem_reduce c (hname ▸ List.mem_append_right front hc)
      exact absurd h (not_begins_reduced hseparator)
    · obtain ⟨zs, hzs, hfound⟩ := ih ⟨_, hys.symm⟩
      exact ⟨zs, hzs.trans (List.dropWhile_suffix _), hfound⟩
  | char c cs hbegins ih =>
    rw [strip_of_not_begins hbegins, List.suffix_cons_iff] at hys
    rcases hys with rfl | hys
    · rw [← strip_of_not_begins hbegins] at h
      exact ⟨c :: cs, List.suffix_refl _, begins_strip h, hbegins⟩
    · obtain ⟨zs, hzs, hfound⟩ := ih hys
      exact ⟨zs, hzs.trans (List.suffix_cons ..), hfound⟩

/-! ## Absence -/

/-- Whether no path of the family begins anywhere in a text. -/
def Absent (f : Family) (cs : List Char) : Prop := ∀ ys, ys <:+ cs → ¬ f.Begins ys

theorem absent_strip (f : Family) (cs : List Char) : f.Absent (f.strip cs) := by
  intro ys hys h
  obtain ⟨zs, _, hbegins, hnot⟩ := exists_begins_of_strip hys h
  exact hnot hbegins

theorem Absent.strip (h : f.Absent cs) : f.Absent (g.strip cs) := by
  intro ys hys hbegins
  obtain ⟨zs, hzs, hbegins, _⟩ := exists_begins_of_strip hys hbegins
  exact h zs hzs hbegins

end Family

/-- A scrubbed text has no path left. -/
theorem absent_stripChars (cs : List Char) :
    temporary.Absent (stripChars cs) ∧ home.Absent (stripChars cs) ∧
      drive.Absent (stripChars cs) :=
  ⟨(Family.absent_strip _ _).strip.strip, (Family.absent_strip _ _).strip,
    Family.absent_strip _ _⟩

end Resilience.Scrub
