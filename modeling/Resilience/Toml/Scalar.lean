import Resilience.Binary64.Decimal
import Resilience.Text.Split
import Resilience.Time.Timestamp
import Resilience.Toml.Basic

/-!
Values that are one word: truth values, numbers, dates and times.
-/

namespace Resilience.Toml

open Timestamp (padded)

/-! ## Numbers -/

/-- The digits of a number without the underscores between them. -/
def digits? (isDigit : Char → Bool) (cs : List Char) : Option (List Char) :=
  let groups := Text.runs (· = '_') cs
  if groups.all fun g => !g.isEmpty && g.all isDigit then some groups.flatten else none

/-- The digits of a decimal integer, which has no superfluous leading zero. -/
def whole? (cs : List Char) : Option (List Char) := do
  let digits ← digits? Char.isDigit cs
  guard (digits.length = 1 || digits.head? != some '0')
  some digits

/-- A natural number in a base up to sixteen. -/
def inBase? (base : Nat) (cs : List Char) : Option Int := do
  let digits ← digits? (fun c => (Text.hexValue? c).any (· < base)) cs
  some (digits.foldl (fun n c => base * n + (Text.hexValue? c).getD 0) 0 : Nat)

/-- Integers have 64 bits, one of which is the sign. -/
def int? (cs : List Char) : Option Int := do
  let n ← match cs with
    | '0' :: 'x' :: rest => inBase? 16 rest
    | '0' :: 'o' :: rest => inBase? 8 rest
    | '0' :: 'b' :: rest => inBase? 2 rest
    | cs =>
      let (negative, rest) := Binary64.sign cs
      (whole? rest).map fun digits =>
        if negative then -(Text.digitsValue digits : Int) else Text.digitsValue digits
  guard (Int64.minValue.toInt ≤ n ∧ n ≤ Int64.maxValue.toInt)
  some n

def isExponentMark (c : Char) : Bool := c = 'e' || c = 'E'

/-- An exponent without its underscores; none if the text has no exponent or one without digits. -/
def exponent? : List Char → Option (List Char)
  | e :: '-' :: rest => (digits? Char.isDigit rest).map (e :: '-' :: ·)
  | e :: '+' :: rest => (digits? Char.isDigit rest).map (e :: ·)
  | e :: rest => (digits? Char.isDigit rest).map (e :: ·)
  | [] => none

/-- A number with decimals, with an exponent, or with both, after its sign; or one that is not
finite. A positive number must not be too large. -/
def float? (cs : List Char) : Option Binary64 := do
  let (negative, rest) := Binary64.sign cs
  if rest = ['i', 'n', 'f'] then some (Binary64.infinity negative)
  else if rest = ['n', 'a', 'n'] then some Binary64.nan
  else
    let mantissa := rest.takeWhile (!isExponentMark ·)
    let exponent := rest.dropWhile (!isExponentMark ·)
    guard (mantissa.contains '.' || !exponent.isEmpty)
    let whole ← whole? (mantissa.takeWhile (· != '.'))
    let fraction ← match mantissa.dropWhile (· != '.') with
      | [] => some []
      | _ :: fraction => digits? Char.isDigit fraction
    let exponent ← if exponent.isEmpty then some [] else exponent? exponent
    let x ← Binary64.unsigned? negative (whole ++ '.' :: fraction ++ exponent)
    guard (x != Binary64.infinity false)
    some x

/-! ## Dates and times -/

def fixed? (count : Nat) (cs : List Char) : Option (Nat × List Char) :=
  let digits := cs.take count
  if digits.length = count ∧ digits.all Char.isDigit then
    some (Text.digitsValue digits, cs.drop count)
  else none

def two? (least most : Nat) (cs : List Char) : Option (Nat × List Char) := do
  let (n, rest) ← fixed? 2 cs
  guard (least ≤ n && n ≤ most)
  some (n, rest)

def date? (cs : List Char) : Option (String × List Char) := do
  let (year, cs) ← fixed? 4 cs
  let cs ← after? '-' cs
  let (month, cs) ← two? 1 12 cs
  let cs ← after? '-' cs
  let (day, cs) ← two? 1 (Timestamp.daysInMonth year month) cs
  some (padded 4 year ++ "-" ++ padded 2 month ++ "-" ++ padded 2 day, cs)

/-- Decimals of a second, of which nine count, without zeros at their end. -/
def decimals (nanos : Nat) : String :=
  if nanos = 0 then ""
  else
    let digits := (padded 9 nanos).toList.reverse.dropWhile (· = '0')
    "." ++ String.ofList digits.reverse

def clock? (cs : List Char) : Option (String × List Char) := do
  let (hour, cs) ← two? 0 23 cs
  let cs ← after? ':' cs
  let (minute, cs) ← two? 0 59 cs
  let cs ← after? ':' cs
  let (second, cs) ← two? 0 60 cs
  let (nanos, cs) ← Timestamp.fraction? cs
  some (padded 2 hour ++ ":" ++ padded 2 minute ++ ":" ++ padded 2 second ++ decimals nanos, cs)

/-- The offset at the end of a date and time, which may be left out. -/
def offset? : List Char → Option String
  | [] => some ""
  | [c] => if Timestamp.isZulu c then some "Z" else none
  | mark :: cs => do
    guard (mark = '+' || mark = '-')
    let (hours, cs) ← two? 0 23 cs
    let cs ← after? ':' cs
    let (minutes, cs) ← two? 0 59 cs
    guard cs.isEmpty
    let sign := if mark = '-' ∧ (0 < hours ∨ 0 < minutes) then "-" else "+"
    some (sign ++ padded 2 hours ++ ":" ++ padded 2 minutes)

/-- A date, a time of day, or a date and a time of day with or without an offset. -/
def time? (cs : List Char) : Option String :=
  match date? cs with
  | some (date, []) => some date
  | some (date, mark :: rest) => do
    guard (mark = 'T' || mark = 't' || mark = ' ')
    let (clock, rest) ← clock? rest
    let offset ← offset? rest
    some (date ++ "T" ++ clock ++ offset)
  | none => do
    let (clock, rest) ← clock? cs
    guard rest.isEmpty
    some clock

/-! ## Words -/

def isWordChar (c : Char) : Bool :=
  c.isAlphanum || c = '_' || c = '+' || c = '-' || c = '.' || c = ':'

/-- The word at the beginning of a text. A date goes on after a blank with a time of day. -/
def word (cs : List Char) : List Char × List Char :=
  let first := cs.takeWhile isWordChar
  let rest := cs.dropWhile isWordChar
  match rest with
  | ' ' :: d :: more =>
    if d.isDigit && (date? first).any (·.2.isEmpty) then
      (first ++ ' ' :: (d :: more).takeWhile isWordChar, (d :: more).dropWhile isWordChar)
    else (first, rest)
  | _ => (first, rest)

def ofWord? (cs : List Char) : Option Toml :=
  if cs = ['t', 'r', 'u', 'e'] then some (.bool true)
  else if cs = ['f', 'a', 'l', 's', 'e'] then some (.bool false)
  else match int? cs, float? cs, time? cs with
    | some n, _, _ => some (.int n)
    | none, some x, _ => some (.float x)
    | none, none, some t => some (.time t)
    | none, none, none => none

end Resilience.Toml
