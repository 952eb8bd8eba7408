import Resilience.Friendly.Basic
import Resilience.Proofs.Friendly.Paths
import Resilience.Proofs.Text.Infix

/-!
# What a user is told about directories

No text that has been scrubbed shows a directory named for a user or a process, and none is longer
than its limit (`Translator.translate_private`). Cutting a text to its length can make a path of what
was none, for the points at its end may follow `/home/`; but it makes no directory, which ends in a
separator (`Scrub.shows_of_shows_truncate`).
-/

namespace Resilience.Scrub

/-! ## Directories -/

/-- A name in a path. -/
def IsName (name : List Char) : Prop :=
  name ≠ [] ∧ ∀ c ∈ name, isSeparator c = false ∧ isDelimiter c = false

theorem isName_of_all {name : List Char} (hne : name ≠ [])
    (h : name.all fun c => !isSeparator c && !isDelimiter c) : IsName name :=
  ⟨hne, by simpa using h⟩

inductive HomeDirectory : List Char → Prop
  | home {user : List Char} (h : IsName user) : HomeDirectory ("/home/".toList ++ user ++ ['/'])
  | users {user : List Char} (h : IsName user) : HomeDirectory ("/Users/".toList ++ user ++ ['/'])

/-- Directories of users and of processes. -/
inductive PrivateDirectory : List Char → Prop
  | home {dir : List Char} (h : HomeDirectory dir) : PrivateDirectory dir
  | temporary {owner : List Char} (h : IsName owner) :
    PrivateDirectory ("/var/folders/".toList ++ owner ++ ['/'])
  | drive {letter : Char} {users user : List Char} (hletter : isDriveLetter letter)
    (husers : List.Forall₂ (fun lower c => Text.sameLetter lower c) ":\\users\\".toList users)
    (h : IsName user) : PrivateDirectory (letter :: users ++ user ++ ['\\'])

/-- Whether a directory stands in a text. -/
def Shows (text : String) (dir : List Char) : Prop := dir <:+: text.toList

theorem IsName.beginsWith {name : List Char} (h : IsName name) (rest : List Char) :
    beginsWith [inPath] (name ++ rest) := by
  obtain ⟨hne, hname⟩ := h
  cases name with
  | nil => exact absurd rfl hne
  | cons c name => simp [Scrub.beginsWith, inPath, hname c List.mem_cons_self]

theorem begins_of_isName {f : Family} {head : List (Char → Bool)} {w name : List Char}
    (hhead : head ∈ f.heads) (hw : List.Forall₂ (fun p c => p c) head w) (hname : IsName name)
    (rest : List Char) : f.Begins (w ++ name ++ rest) := by
  refine ⟨head, hhead, ?_⟩
  rw [beginsWith_append, List.append_assoc, beginsWith_iff.2 ⟨w, _, rfl, hw⟩, hw.length_eq,
    List.drop_left, hname.beginsWith]
  rfl

theorem forall₂_exactly (s : String) : List.Forall₂ (fun p c => p c) (exactly s) s.toList := by
  rw [exactly, List.forall₂_map_left_iff, List.forall₂_same]
  simp

theorem HomeDirectory.begins {dir : List Char} (h : HomeDirectory dir) (rest : List Char) :
    Scrub.home.Begins (dir ++ rest) := by
  cases h with
  | home h =>
    rw [List.append_assoc]
    exact begins_of_isName (by simp [Scrub.home]) (forall₂_exactly "/home/") h _
  | users h =>
    rw [List.append_assoc]
    exact begins_of_isName (by simp [Scrub.home]) (forall₂_exactly "/Users/") h _

/-- A directory is where a path of one of the families begins. -/
theorem PrivateDirectory.begins {dir : List Char} (h : PrivateDirectory dir) (rest : List Char) :
    Scrub.temporary.Begins (dir ++ rest) ∨ Scrub.home.Begins (dir ++ rest) ∨
      Scrub.drive.Begins (dir ++ rest) := by
  cases h with
  | home h => exact .inr (.inl (h.begins rest))
  | temporary h =>
    rw [List.append_assoc]
    exact .inl (begins_of_isName (by simp [Scrub.temporary]) (forall₂_exactly "/var/folders/") h _)
  | drive hletter husers h =>
    rw [List.append_assoc]
    refine .inr (.inr (begins_of_isName List.mem_cons_self (.cons hletter ?_) h _))
    rwa [anyCase, List.forall₂_map_left_iff]

theorem PrivateDirectory.exists_eq_append {dir : List Char} (h : PrivateDirectory dir) :
    ∃ front sep, dir = front ++ [sep] ∧ isSeparator sep := by
  cases h with
  | home h => cases h <;> exact ⟨_, '/', rfl, rfl⟩
  | temporary => exact ⟨_, '/', rfl, rfl⟩
  | drive => exact ⟨_, '\\', rfl, rfl⟩

/-! ## Scrubbed texts -/

theorem toList_scrub (text : String) :
    (scrub text).toList = stripChars (redactChars none text.toList) := by
  simp [scrub, stripPaths, redactSecrets]

theorem not_shows_scrub (text : String) {dir : List Char} (h : PrivateDirectory dir) :
    ¬ Shows (scrub text) dir := by
  rintro hshows
  rw [Shows, toList_scrub] at hshows
  obtain ⟨ys, ⟨rest, rfl⟩, hys⟩ := List.infix_iff_prefix_suffix.1 hshows
  obtain ⟨htemporary, hhome, hdrive⟩ := absent_stripChars (redactChars none text.toList)
  rcases h.begins rest with hbegins | hbegins | hbegins
  · exact htemporary _ hys hbegins
  · exact hhome _ hys hbegins
  · exact hdrive _ hys hbegins

/-! ## Cut texts -/

theorem length_truncate_le (text : String) (most : Nat) : (truncate text most).length ≤ most := by
  rw [truncate]
  split
  · assumption
  · have htake (k : Nat) : (String.ofList (text.toList.take k)).length ≤ k := by
      rw [← String.length_toList, String.toList_ofList]
      exact List.length_take_le ..
    split
    · exact htake most
    · have hellipsis : ellipsis.length = 3 := rfl
      have hcut := htake (most - 3)
      rw [String.length_append]
      omega

/-- No word comes into a text when it is cut, but one with a point at its end. -/
theorem infix_of_infix_truncate {text : String} {most : Nat} {w : List Char} {last : Char}
    (hlast : last ≠ '.') (h : w ++ [last] <:+: (truncate text most).toList) :
    w ++ [last] <:+: text.toList := by
  rw [truncate] at h
  split at h
  · exact h
  · split at h
    · rw [String.toList_ofList] at h
      exact h.trans (List.take_prefix _ _).isInfix
    · rw [String.toList_append, String.toList_ofList] at h
      have hpoint : last ∉ ellipsis.toList := by simpa [ellipsis] using hlast
      exact (Text.infix_of_infix_append h hpoint).trans (List.take_prefix _ _).isInfix

theorem shows_of_shows_truncate {text : String} {most : Nat} {dir : List Char}
    (hdir : PrivateDirectory dir) (h : Shows (truncate text most) dir) : Shows text dir := by
  obtain ⟨front, sep, rfl, hsep⟩ := hdir.exists_eq_append
  refine infix_of_infix_truncate ?_ h
  rintro rfl
  exact absurd hsep (by decide)

theorem not_shows_message (limit : Nat) (text : String) {dir : List Char}
    (h : PrivateDirectory dir) : ¬ Shows (message limit text) dir :=
  fun hshows => not_shows_scrub text h (shows_of_shows_truncate h hshows)

theorem not_shows_technical (limit : Nat) (text : String) {dir : List Char}
    (h : PrivateDirectory dir) : ¬ Shows (technical limit text) dir :=
  not_shows_message _ text h

end Resilience.Scrub

/-! ## What a user is told -/

namespace Resilience.Translator

open Scrub (PrivateDirectory Shows)

/-- Whatever a failure, a template and the caller bring with them: message, suggestion and resource
are no longer than the limit, the technical text is no longer than twice that, and none of them shows
a directory of a user or a process. -/
theorem translate_private (t : Translator) (f : Failure) (s : Situation) :
    let told := t.translate f s
    told.message.length ≤ t.limit ∧ (∀ text ∈ told.suggestion, text.length ≤ t.limit) ∧
      (∀ text ∈ told.resource, text.length ≤ t.limit) ∧
      told.technical.length ≤ min (2 * t.limit) (UInt64.size - 1) ∧
      ∀ text ∈ told.message :: told.technical :: (told.suggestion.toList ++ told.resource.toList),
        ∀ dir, PrivateDirectory dir → ¬ Shows text dir := by
  intro told
  have hmessage (text : String) : (Scrub.message t.limit text).length ≤ t.limit :=
    Scrub.length_truncate_le _ _
  have htechnical : told.technical.length ≤ min (2 * t.limit) (UInt64.size - 1) :=
    Scrub.length_truncate_le _ _
  refine ⟨hmessage _, ?_, ?_, htechnical, ?_⟩
  · intro text htext
    obtain ⟨suggestion, _, rfl⟩ := Option.map_eq_some_iff.1 htext
    exact hmessage suggestion
  · intro text htext
    obtain ⟨resource, _, rfl⟩ := Option.map_eq_some_iff.1 htext
    exact hmessage resource
  · intro text htext dir hdir
    simp only [List.mem_cons, List.mem_append, Option.mem_toList] at htext
    rcases htext with rfl | rfl | htext | htext
    · exact Scrub.not_shows_message _ _ hdir
    · exact Scrub.not_shows_technical _ _ hdir
    · obtain ⟨suggestion, _, rfl⟩ := Option.map_eq_some_iff.1 htext
      exact Scrub.not_shows_message _ _ hdir
    · obtain ⟨resource, _, rfl⟩ := Option.map_eq_some_iff.1 htext
      exact Scrub.not_shows_message _ _ hdir

end Resilience.Translator
