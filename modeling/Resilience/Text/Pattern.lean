import Resilience.Text.Chars

/-!
Patterns of text, and whether one occurs in a text. A pattern is followed through a text from one
place to all the places where it can end.
-/

namespace Resilience.Text

/-- A place in a text: the character before it, if any, and the text after it. -/
structure Place where
  before : Option Char
  rest : List Char

inductive Pattern where
  | empty
  | one (p : Char → Bool)
  | many (p : Char → Bool)
  /-- The empty text between a word character and something else. -/
  | boundary
  | seq (first second : Pattern)
  | either (first second : Pattern)

namespace Pattern

instance : Append Pattern := ⟨seq⟩
instance : OrElse Pattern := ⟨fun p q => either p (q ())⟩

def oneOrMore (p : Char → Bool) : Pattern := one p ++ many p

def optional (p : Pattern) : Pattern := either p empty

/-- The characters of a text, letters in any case. -/
def letters (s : String) : Pattern := s.toList.foldr (fun c p => one (sameLetter c) ++ p) empty

def exactly (s : String) : Pattern := s.toList.foldr (fun c p => one (· = c) ++ p) empty

def blanks : Pattern := oneOrMore isBlank

/-- Words with blanks between them, letters in any case. -/
def phrase : List String → Pattern
  | [] => empty
  | [w] => letters w
  | w :: ws => letters w ++ blanks ++ phrase ws

/-- A word of its own, letters in any case. -/
def word (s : String) : Pattern := boundary ++ letters s ++ boundary

/-- The places in which characters of a class can end. -/
def manyEnds (p : Char → Bool) : Option Char → List Char → List Place
  | before, [] => [⟨before, []⟩]
  | before, c :: cs =>
    ⟨before, c :: cs⟩ :: (if p c then manyEnds p (some c) cs else [])

/-- The places in which the pattern can end when it begins in a place. -/
def ends : Pattern → Place → List Place
  | empty, at_ => [at_]
  | one p, at_ =>
    match at_.rest with
    | c :: cs => if p c then [⟨some c, cs⟩] else []
    | [] => []
  | many p, at_ => manyEnds p at_.before at_.rest
  | boundary, at_ => if isBoundary at_.before at_.rest.head? then [at_] else []
  | seq p q, at_ => (ends p at_).flatMap (ends q)
  | either p q, at_ => ends p at_ ++ ends q at_

/-- Whether the pattern occurs in what is left of a text. -/
def occursFrom (p : Pattern) : Option Char → List Char → Bool
  | before, [] => !(p.ends ⟨before, []⟩).isEmpty
  | before, c :: cs => !(p.ends ⟨before, c :: cs⟩).isEmpty || occursFrom p (some c) cs

def occursIn (p : Pattern) (text : String) : Bool := p.occursFrom none text.toList

end Pattern

end Resilience.Text
