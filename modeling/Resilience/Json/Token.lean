import Resilience.Json.Number

/-!
The tokens of a JSON text. The scanner reads one character after the other; what it has read of a
token that is not finished is its mode.
-/

namespace Resilience.Json

inductive Token where
  | leftBrace
  | rightBrace
  | leftBracket
  | rightBracket
  | colon
  | comma
  | null
  | bool (value : Bool)
  /-- A number, or nothing if it is written correctly but is too large. -/
  | num (value : Option Number)
  /-- A text, or nothing if it is written correctly but holds half of a surrogate pair. -/
  | str (value : Option String)
deriving DecidableEq

namespace Token

/-- What has been read of the token at hand, last character first. Texts are read as code points,
which may be halves of a surrogate pair. -/
inductive Mode where
  | between
  | word (read : List Char)
  | number (read : List Char)
  | text (read : List Nat)
  | escape (read : List Nat)
  | hex (read : List Nat) (missing : Nat) (value : Nat)

structure Scan where
  mode : Mode
  /-- Last token first. -/
  done : List Token

def isSpace (c : Char) : Bool := c = ' ' || c = '\n' || c = '\t' || c = '\r'

def ofWord (letters : List Char) : Option Token :=
  if letters = ['n', 'u', 'l', 'l'] then some .null
  else if letters = ['t', 'r', 'u', 'e'] then some (.bool true)
  else if letters = ['f', 'a', 'l', 's', 'e'] then some (.bool false)
  else none

def ofMark : Char → Option Token
  | '[' => some .leftBracket
  | ']' => some .rightBracket
  | ':' => some .colon
  | ',' => some .comma
  | c => if c = '\x7b' then some .leftBrace else if c = '\x7d' then some .rightBrace else none

/-- Joins the halves of surrogate pairs; none if a half stands alone. -/
def joinPairs : List Nat → Option (List Char)
  | [] => some []
  | a :: rest =>
    if 0xd800 ≤ a ∧ a < 0xdc00 then
      match rest with
      | b :: rest =>
        if 0xdc00 ≤ b ∧ b < 0xe000 then
          (joinPairs rest).map (Char.ofNat (0x10000 + (a - 0xd800) * 0x400 + (b - 0xdc00)) :: ·)
        else none
      | [] => none
    else if 0xdc00 ≤ a ∧ a < 0xe000 then none
    else (joinPairs rest).map (Char.ofNat a :: ·)

def escaped : Char → Option Nat
  | '"' => some 34
  | '\\' => some 92
  | '/' => some 47
  | 'b' => some 8
  | 'f' => some 12
  | 'n' => some 10
  | 'r' => some 13
  | 't' => some 9
  | _ => none

def isNumberChar (c : Char) : Bool :=
  c.isDigit || c = '-' || c = '+' || c = '.' || c = 'e' || c = 'E'

/-- Reads a character between two tokens. -/
def Scan.start (s : Scan) (c : Char) : Option Scan :=
  if isSpace c then some { s with mode := .between }
  else if c = '"' then some { s with mode := .text [] }
  else if c.isDigit || c = '-' then some { s with mode := .number [c] }
  else if c.isAlpha then some { s with mode := .word [c] }
  else (ofMark c).map fun t => ⟨.between, t :: s.done⟩

/-- Ends the word or number at hand. -/
def Scan.flush (s : Scan) : Option Scan :=
  match s.mode with
  | .between => some s
  | .word read => (ofWord read.reverse).map fun t => ⟨.between, t :: s.done⟩
  | .number read =>
    (Number.literal? read.reverse).map fun n => ⟨.between, .num (Number.ofLiteral n) :: s.done⟩
  | .text _ | .escape _ | .hex _ _ _ => none

def Scan.step (s : Scan) (c : Char) : Option Scan :=
  match s.mode with
  | .between => s.start c
  | .word read =>
    if c.isAlpha then some { s with mode := .word (c :: read) }
    else s.flush.bind (·.start c)
  | .number read =>
    if isNumberChar c then some { s with mode := .number (c :: read) }
    else s.flush.bind (·.start c)
  | .text read =>
    if c = '"' then
      some ⟨.between, .str ((joinPairs read.reverse).map String.ofList) :: s.done⟩
    else if c = '\\' then some { s with mode := .escape read }
    else if c.toNat < 32 then none
    else some { s with mode := .text (c.toNat :: read) }
  | .escape read =>
    if c = 'u' then some { s with mode := .hex read 4 0 }
    else (escaped c).map fun n => { s with mode := .text (n :: read) }
  | .hex read missing value =>
    (Text.hexValue? c).map fun d =>
      let value := 16 * value + d
      if missing ≤ 1 then { s with mode := .text (value :: read) }
      else { s with mode := .hex read (missing - 1) value }

/-- The tokens of a text, if it is made of tokens. -/
def scan (text : List Char) : Option (List Token) := do
  let s ← text.foldlM Scan.step ⟨.between, []⟩
  let s ← s.flush
  some s.done.reverse

end Token

end Resilience.Json
