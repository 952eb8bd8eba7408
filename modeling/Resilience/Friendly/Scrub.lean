import Resilience.Text.Chars
import Resilience.Text.Split

/-!
Scrubbing of text before a user sees it. Paths into a home or temporary directory are cut down to
their base name, values of secrets are taken out, and text is cut to a length.
-/

namespace Resilience.Scrub

/-! ## Paths -/

/-- Characters that end a path: blanks, quotes, commas, semicolons and brackets. -/
def isDelimiter (c : Char) : Bool :=
  Text.isBlank c ||
    ['\x27', '"', '\x60', ',', ';', '(', ')', '[', ']', '<', '>'].contains c

def isSeparator (c : Char) : Bool := c = '/' || c = '\\'

/-- A way in which a path begins, one test a character: no delimiter passes one, and only separators
pass the last one. -/
structure IsHead (head : List (Char → Bool)) : Prop where
  not_delimiter : ∀ p ∈ head, ∀ c, p c → isDelimiter c = false
  separator_of_last : ∀ p ∈ head.getLast?, ∀ c, p c → isSeparator c
  ne_nil : head ≠ []

/-- Paths with a common beginning. -/
structure Family where
  /-- The ways in which such a path begins; the first that fits counts. -/
  heads : List (List (Char → Bool))
  /-- How many names it takes to reach the directory that the path is in. -/
  depth : Nat
  isHead : ∀ head ∈ heads, IsHead head

def exactly (s : String) : List (Char → Bool) := s.toList.map fun c d => d = c

def anyCase (s : String) : List (Char → Bool) := s.toList.map Text.sameLetter

theorem isHead_exactly {s : String} (hpath : s.toList.all (!isDelimiter ·))
    (hlast : ∃ c ∈ s.toList.getLast?, isSeparator c) : IsHead (exactly s) where
  not_delimiter := by
    intro p hp c hc
    obtain ⟨d, hd, rfl⟩ := List.mem_map.1 hp
    obtain rfl : c = d := by simpa using hc
    simpa using List.all_eq_true.1 hpath c hd
  separator_of_last := by
    intro p hp c hc
    obtain ⟨last, hlast, hsep⟩ := hlast
    rw [exactly, List.getLast?_map, Option.mem_def, hlast, Option.map_some] at hp
    cases hp
    obtain rfl : c = last := by simpa using hc
    exact hsep
  ne_nil := by
    rintro h
    simp_all [exactly]

def temporary : Family where
  heads := [exactly "/private/var/folders/", exactly "/var/folders/"]
  depth := 0
  isHead := by
    intro head hhead
    simp only [List.mem_cons, List.not_mem_nil, or_false] at hhead
    rcases hhead with rfl | rfl <;> exact isHead_exactly (by decide) ⟨'/', by decide, rfl⟩

def home : Family where
  heads := [exactly "/Users/", exactly "/home/"]
  depth := 2
  isHead := by
    intro head hhead
    simp only [List.mem_cons, List.not_mem_nil, or_false] at hhead
    rcases hhead with rfl | rfl <;> exact isHead_exactly (by decide) ⟨'/', by decide, rfl⟩

/-- A letter of either case, the Kelvin sign and the long s included. -/
def isDriveLetter (c : Char) : Bool := c.isAlpha || c = '\u212a' || c = '\u017f'

theorem isDelimiter_of_isAlpha {c : Char} (h : c.isAlpha) : isDelimiter c = false := by
  have hrange : 65 ≤ c.toNat ∧ c.toNat ≤ 90 ∨ 97 ≤ c.toNat ∧ c.toNat ≤ 122 := by
    rwa [Text.isAlpha_iff, Text.isUpper_iff, Text.isLower_iff] at h
  have hne (d : Char) (hd : d.toNat < 65 ∨ 90 < d.toNat ∧ d.toNat < 97) : c ≠ d := by
    rintro rfl
    omega
  have hblank : Text.isBlank c = false := by
    simp [Text.isBlank]
    omega
  simp [isDelimiter, hblank, hne]

theorem isDelimiter_of_isDriveLetter {c : Char} (h : isDriveLetter c) : isDelimiter c = false := by
  simp only [isDriveLetter, Bool.or_eq_true, decide_eq_true_eq] at h
  rcases h with (h | rfl) | rfl
  · exact isDelimiter_of_isAlpha h
  · decide
  · decide

/-- Case matters to letters only. -/
theorem eq_or_isDriveLetter_of_sameLetter {lower c : Char} (h : Text.sameLetter lower c) :
    c = lower ∨ isDriveLetter c ∧ lower.isAlpha := by
  simp only [Text.sameLetter, Bool.or_eq_true, Bool.and_eq_true, decide_eq_true_eq] at h
  rcases h with ((h | h) | ⟨rfl, rfl⟩) | ⟨rfl, rfl⟩
  · exact .inl h
  · by_cases hc : c.toLower = c
    · exact .inl (hc.symm.trans h)
    · obtain ⟨hletter, hlower⟩ := Text.isAlpha_of_toLower_ne hc
      exact .inr ⟨by simp [isDriveLetter, hletter], h ▸ hlower⟩
  · exact .inr ⟨rfl, rfl⟩
  · exact .inr ⟨rfl, rfl⟩

/-- Home directories on a drive with a letter. -/
def drive : Family where
  heads := [isDriveLetter :: anyCase ":\\users\\"]
  depth := 3
  isHead := by
    intro head hhead
    obtain rfl := List.mem_singleton.1 hhead
    refine ⟨fun p hp c hc => ?_, fun p hp c hc => ?_, List.cons_ne_nil _ _⟩
    · rcases List.mem_cons.1 hp with rfl | hp
      · exact isDelimiter_of_isDriveLetter hc
      · obtain ⟨lower, hlower, rfl⟩ := List.mem_map.1 hp
        rcases eq_or_isDriveLetter_of_sameLetter hc with rfl | ⟨hletter, _⟩
        · have hpath : ":\\users\\".toList.all (!isDelimiter ·) := by decide
          simpa using List.all_eq_true.1 hpath c hlower
        · exact isDelimiter_of_isDriveLetter hletter
    · obtain rfl : Text.sameLetter '\\' = p := by simpa [anyCase] using hp
      rcases eq_or_isDriveLetter_of_sameLetter hc with rfl | ⟨_, hletter⟩
      · rfl
      · exact absurd hletter (by decide)

def beginsWith : List (Char → Bool) → List Char → Bool
  | [], _ => true
  | _ :: _, [] => false
  | p :: ps, c :: cs => p c && beginsWith ps cs

/-- The path of the family that a text begins with: as far as there is no delimiter, and at least
one character beyond the beginning of the family. -/
def Family.pathAt (f : Family) (text : List Char) : Option (List Char) :=
  f.heads.findSome? fun head =>
    if beginsWith head text then
      let body := (text.drop head.length).takeWhile fun c => !isDelimiter c
      if body.isEmpty then none else some (text.take head.length ++ body)
    else none

def names (path : List Char) : List (List Char) :=
  (Text.runs isSeparator path).filter (!·.isEmpty)

def isTail (c : Char) : Bool := c = '.' || c = ':'

/-- A text without the points and colons at its end. -/
def trimTail (cs : List Char) : List Char := (cs.reverse.dropWhile isTail).reverse

/-- The last name of a path, or a tilde if the path ends at `depth` names or before. Points and
colons at the end stay. -/
def reduce (depth : Nat) (path : List Char) : List Char :=
  let trimmed := trimTail path
  let shown := if depth < (names trimmed).length then (names trimmed).getLastD ['~'] else ['~']
  shown ++ path.drop trimmed.length

/-- Every path of the family reduced, from left to right. -/
def Family.strip (f : Family) : List Char → List Char
  | [] => []
  | c :: cs =>
    match f.pathAt (c :: cs) with
    | some path => reduce f.depth path ++ f.strip (cs.drop (path.length - 1))
    | none => c :: f.strip cs
termination_by cs => cs.length
decreasing_by all_goals simp; try omega

def stripChars (cs : List Char) : List Char := drive.strip (home.strip (temporary.strip cs))

def stripPaths (text : String) : String := String.ofList (stripChars text.toList)

/-! ## Secrets -/

def redacted : String := "[REDACTED]"

def isKeyChar (c : Char) : Bool := Text.isWord c || c = '-'

/-- Words that make a key the key of a secret. -/
def secretWords : List (List (Char → Bool)) :=
  ["token", "password", "passwd", "pwd", "apikey", "api_key", "api-key", "secret", "auth"].map anyCase

def namesSecret : List Char → Bool
  | [] => false
  | c :: cs => secretWords.any (beginsWith · (c :: cs)) || namesSecret cs

def isValueChar (c : Char) : Bool := !(Text.isBlank c || c = '&' || c = ',' || c = ';')

/-- A text up to the next `quote`, if there is one, after a quote that opens it. -/
def quoted (quote : Char) (cs : List Char) : Option (List Char) :=
  let body := cs.takeWhile (· ≠ quote)
  if body.length < cs.length then some (quote :: body ++ [quote]) else none

/-- The value that a text begins with: between quotes, or as far as there is no blank, ampersand,
comma or semicolon. -/
def valueAt : List Char → Option (List Char)
  | [] => none
  | c :: cs =>
    let plain :=
      let run := (c :: cs).takeWhile isValueChar
      if run.isEmpty then none else some run
    if c = '"' || c = '\x27' then (quoted c cs).or plain else plain

/-- The value of a secret, with the word for a bearer before it if there is one. -/
def credentialAt (cs : List Char) : Option (List Char) :=
  let bearer :=
    if beginsWith (anyCase "bearer") cs then
      let blanks := (cs.drop 6).takeWhile Text.isBlank
      if blanks.isEmpty then none
      else (valueAt (cs.drop (6 + blanks.length))).map (cs.take (6 + blanks.length) ++ ·)
    else none
  bearer.or (valueAt cs)

/-- The secret that a text begins with: what of it is kept, and what is not. -/
def secretAt (before : Option Char) (cs : List Char) : Option (List Char × List Char) :=
  if Text.isBoundary before cs.head? then
    let key := cs.takeWhile isKeyChar
    if namesSecret key then
      let rest := cs.drop key.length
      let blanks := rest.takeWhile Text.isBlank
      match rest.drop blanks.length with
      | mark :: rest =>
        if mark = '=' || mark = ':' then
          let after := rest.takeWhile Text.isBlank
          (credentialAt (rest.drop after.length)).map (key ++ blanks ++ mark :: after, ·)
        else none
      | [] => none
    else none
  else none

/-- Every secret taken out, from left to right. -/
def redactChars (before : Option Char) : List Char → List Char
  | [] => []
  | c :: cs =>
    match secretAt before (c :: cs) with
    | some (kept, lost) =>
      kept ++ redacted.toList ++
        redactChars lost.getLast? (cs.drop (kept.length + lost.length - 1))
    | none => c :: redactChars (some c) cs
termination_by cs => cs.length
decreasing_by all_goals simp; try omega

/-- Values of keys that name a secret taken out. -/
def redactSecrets (text : String) : String := String.ofList (redactChars none text.toList)

def scrub (text : String) : String := stripPaths (redactSecrets text)

/-! ## Length -/

def ellipsis : String := "..."

/-- A text cut to at most so many characters, the last three of them points if there is room. -/
def truncate (text : String) (most : Nat) : String :=
  let cs := text.toList
  if cs.length ≤ most then text
  else if most ≤ 3 then String.ofList (cs.take most)
  else String.ofList (cs.take (most - 3)) ++ ellipsis

def defaultLimit : Nat := 500

/-- Longest technical text, given the longest message. -/
def technicalLimit (limit : Nat) : Nat := min (2 * limit) (UInt64.size - 1)

def message (limit : Nat) (text : String) : String := truncate (scrub text) limit

def technical (limit : Nat) (text : String) : String := truncate (scrub text) (technicalLimit limit)

/-! ## File names -/

/-- Characters between the words in which a path is looked for. -/
def isWordEnd (c : Char) : Bool :=
  Text.isBlank c || ['\x27', '"', '\x60', ',', ';', '(', ')'].contains c

/-- The last name of a word that is a path. -/
def baseName? (word : List Char) : Option (List Char) :=
  if word.any isSeparator then (names (trimTail word)).getLast? else none

/-- The base name of the first path in a text. -/
def firstFileName? (text : String) : Option String :=
  ((Text.runs isWordEnd text.toList).findSome? baseName?).map String.ofList

end Resilience.Scrub
