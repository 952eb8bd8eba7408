import Resilience.Text.Digits
import Resilience.Toml.Basic

/-!
Quoted texts: on one line or on several, with escape sequences or as they are.
-/

namespace Resilience.Toml

structure Quoting where
  quote : Char
  escapes : Bool
  /-- Whether the text has three quotes on each side and may hold line breaks. -/
  lines : Bool

namespace Quoting

/-- What the next character belongs to. -/
inductive Mode where
  | plain
  | escape
  | hex (missing value : Nat)
  /-- The gap after a backslash at the end of a line, and whether its line break has been seen. -/
  | gap (broken : Bool)

def escaped : Char → Option Char
  | 'b' => some '\x08'
  | 't' => some '\t'
  | 'n' => some '\n'
  | 'f' => some '\x0c'
  | 'r' => some '\r'
  | '"' => some '"'
  | '\\' => some '\\'
  | _ => none

/-- Whether a blank or a line break comes next. -/
def gapNext : List Char → Bool
  | '\r' :: '\n' :: _ => true
  | c :: _ => isBlank c || c = '\n'
  | [] => false

/-- What follows the text, after the quotes of it that stand before the closing ones. -/
def closing? (q : Quoting) (cs : List Char) : Option (List Char × List Char) :=
  if !q.lines then (after? q.quote cs).map ([], ·)
  else
    let count := (cs.takeWhile (· = q.quote)).length
    if count < 3 then none
    else
      let kept := min (count - 3) 2
      some (List.replicate kept q.quote, cs.drop (kept + 3))

def put (c : Char) (read : Option (List Char × List Char)) : Option (List Char × List Char) :=
  read.map fun (chars, rest) => (c :: chars, rest)

/-- The character with a code point, if there is one. -/
def ofCodePoint? (n : Nat) : Option Char :=
  if n.isValidChar then some (Char.ofNat n) else none

/-- Reads a text whose opening quotes have been read. -/
def read? (q : Quoting) : Mode → List Char → Option (List Char × List Char)
  | _, [] => none
  | .plain, c :: rest =>
    match q.closing? (c :: rest) with
    | some found => some found
    | none =>
      if c = '\\' && q.escapes then
        read? q (if q.lines && gapNext rest then .gap false else .escape) rest
      else if c = '\n' then (if q.lines then put c (read? q .plain rest) else none)
      else if c = '\r' then
        (if q.lines && rest.head? = some '\n' then read? q .plain rest else none)
      else if isPlain c then put c (read? q .plain rest)
      else none
  | .escape, c :: rest =>
    if c = 'u' then read? q (.hex 4 0) rest
    else if c = 'U' then read? q (.hex 8 0) rest
    else match escaped c with
      | some e => put e (read? q .plain rest)
      | none => none
  | .hex missing value, c :: rest =>
    match Text.hexValue? c with
    | none => none
    | some d =>
      if missing ≤ 1 then
        match ofCodePoint? (16 * value + d) with
        | some e => put e (read? q .plain rest)
        | none => none
      else read? q (.hex (missing - 1) (16 * value + d)) rest
  | .gap broken, c :: rest =>
    let broken := broken || c = '\n'
    if gapNext rest then read? q (.gap broken) rest
    else if broken then read? q .plain rest
    else none

end Quoting

/-- A line break right after opening quotes does not belong to the text. -/
def dropBreak : List Char → List Char
  | '\n' :: rest => rest
  | '\r' :: '\n' :: rest => rest
  | cs => cs

def line? : List Char → Option (List Char × List Char)
  | '"' :: rest => Quoting.read? ⟨'"', true, false⟩ .plain rest
  | '\x27' :: rest => Quoting.read? ⟨'\x27', false, false⟩ .plain rest
  | _ => none

def quoted? : List Char → Option (List Char × List Char)
  | '"' :: '"' :: '"' :: rest => Quoting.read? ⟨'"', true, true⟩ .plain (dropBreak rest)
  | '\x27' :: '\x27' :: '\x27' :: rest =>
    Quoting.read? ⟨'\x27', false, true⟩ .plain (dropBreak rest)
  | cs => line? cs

end Resilience.Toml
