import Resilience.Toml.Branch
import Resilience.Toml.Quoted
import Resilience.Toml.Scalar

/-!
TOML documents: headers, and keys with their values. A reader answers what it has read and what
follows. A value begins with as much fuel as its text is long, twice over, and every value and
every item takes one of it; so it lasts.
-/

namespace Resilience.Toml

/-! ## Keys -/

/-- A key has fewer parts than this. -/
def maxParts : Nat := 80

/-- Arrays and tables in a value are nested less deep than this. -/
def maxNesting : Nat := 80

def isBareChar (c : Char) : Bool := c.isAlphanum || c = '_' || c = '-'

def name? (cs : List Char) : Option (String × List Char) :=
  match line? cs with
  | some (chars, rest) => some (String.ofList chars, rest)
  | none =>
    let bare := cs.takeWhile isBareChar
    if bare.isEmpty then none else some (String.ofList bare, cs.drop bare.length)

/-- A key of at most so many parts, with the blanks around it. -/
def keyUpTo? : Nat → List Char → Option (Key × List Char)
  | 0, _ => none
  | parts + 1, cs => do
    let (name, rest) ← name? (skipBlanks cs)
    match skipBlanks rest with
    | '.' :: rest =>
      let (key, rest) ← keyUpTo? parts rest
      some ({ key with path := name :: key.path }, rest)
    | rest => some (⟨[], name⟩, rest)

def key? (cs : List Char) : Option (Key × List Char) := keyUpTo? (maxParts - 1) cs

/-! ## Values -/

mutual

/-- A value with at most `depth` arrays and tables around its parts. -/
def valueWithin? (depth : Nat) : Nat → List Char → Option (Toml × List Char)
  | 0, _ => none
  | fuel + 1, '[' :: rest =>
    if depth = 0 then none
    else (items? (depth - 1) fuel (skipGaps false rest)).map fun (vs, rest) => (.array vs, rest)
  | fuel + 1, '\x7b' :: rest =>
    if depth = 0 then none
    else match skipBlanks rest with
      | '\x7d' :: rest => some (.table [], rest)
      | rest => do
        let (pairs, rest) ← pairs? (depth - 1) fuel rest
        let members ← pairs.foldlM (fun ms p => Branch.assign p.1 p.2 .header ms) []
        some ((Branch.table .header members).toToml, rest)
  | _ + 1, cs =>
    match quoted? cs with
    | some (chars, rest) => some (.text (String.ofList chars), rest)
    | none =>
      let (first, rest) := word cs
      (ofWord? first).map (·, rest)

/-- The items of an array up to its closing bracket. -/
def items? (depth : Nat) : Nat → List Char → Option (List Toml × List Char)
  | 0, _ => none
  | _ + 1, ']' :: rest => some ([], rest)
  | fuel + 1, cs => do
    let (v, rest) ← valueWithin? depth fuel cs
    match skipGaps false rest with
    | ',' :: rest =>
      let (vs, rest) ← items? depth fuel (skipGaps false rest)
      some (v :: vs, rest)
    | ']' :: rest => some ([v], rest)
    | _ => none

/-- The members of a table on one line, of which there is one at least, up to its closing brace. -/
def pairs? (depth : Nat) : Nat → List Char → Option (List (Key × Toml) × List Char)
  | 0, _ => none
  | fuel + 1, cs => do
    let (key, rest) ← key? cs
    let rest ← after? '=' rest
    let (v, rest) ← valueWithin? depth fuel (skipBlanks rest)
    match skipBlanks rest with
    | ',' :: rest =>
      let (pairs, rest) ← pairs? depth fuel rest
      some ((key, v) :: pairs, rest)
    | '\x7d' :: rest => some ([(key, v)], rest)
    | _ => none

end

def value? (cs : List Char) : Option (Toml × List Char) :=
  valueWithin? (maxNesting - 1) (2 * cs.length + 2) cs

/-! ## Documents -/

/-- A document that has been read in part. -/
structure Draft where
  /-- The path of the last header. -/
  place : List String
  members : Branch.Members

/-- A header, or a key and its value. -/
def Draft.statement? (d : Draft) : List Char → Option (Draft × List Char)
  | '[' :: '[' :: rest => do
    let (key, rest) ← key? rest
    let rest ← (after? ']' rest).bind (after? ']')
    some (⟨key.path ++ [key.name], ← Branch.openNext key d.members⟩, rest)
  | '[' :: rest => do
    let (key, rest) ← key? rest
    let rest ← after? ']' rest
    some (⟨key.path ++ [key.name], ← Branch.openTable key d.members⟩, rest)
  | cs => do
    let (key, rest) ← key? cs
    let rest ← after? '=' rest
    let (v, rest) ← value? (skipBlanks rest)
    let members ← Branch.within false (Branch.assign key v) d.place .header d.members
    some ({ d with members }, rest)

/-- Reads at most so many lines, each of them blank or a statement. -/
def Draft.lines? : Nat → Draft → List Char → Option Draft
  | _, d, [] => some d
  | 0, _, _ :: _ => none
  | fuel + 1, d, cs =>
    match blankLine? cs with
    | some rest => lines? fuel d rest
    | none => do
      let (d, rest) ← d.statement? (skipBlanks cs)
      lines? fuel d (← blankLine? rest)

/-- The text without a byte order mark at its beginning. -/
def dropMark : List Char → List Char
  | '\ufeff' :: rest => rest
  | cs => cs

def ofText? (text : String) : Option Toml := do
  let cs := dropMark text.toList
  let d ← Draft.lines? cs.length ⟨[], []⟩ cs
  some (Branch.table .header d.members).toToml

end Resilience.Toml
