import Resilience.Binary64.Shortest
import Resilience.Text.Digits

/-!
Decimal texts of floating-point numbers as people write them: read with digits on one side of the
point at least, and written without an exponent.
-/

namespace Resilience.Binary64

/-- A sign and what follows it. Without a sign a number is positive. -/
def sign (cs : List Char) : Bool × List Char :=
  match cs with
  | '-' :: rest => (true, rest)
  | '+' :: rest => (false, rest)
  | rest => (false, rest)

/-- The exponent at the end of a number, which is zero if there is none. -/
def exponent? : List Char → Option Int
  | [] => some 0
  | e :: rest =>
    let (negative, digits) := sign rest
    if (e = 'e' ∨ e = 'E') ∧ !digits.isEmpty ∧ digits.all Char.isDigit then
      some (if negative then -(Text.digitsValue digits : Int) else Text.digitsValue digits)
    else none

/-- Reads what follows the sign: a name of a value that is not finite, in any case, or digits with
or without a point, and perhaps an exponent. -/
def unsigned? (negative : Bool) (cs : List Char) : Option Binary64 :=
  let word := String.ofList (cs.map Char.toLower)
  if word = "inf" ∨ word = "infinity" then some (infinity negative)
  else if word = "nan" then some nan
  else
    let whole := cs.takeWhile Char.isDigit
    let (fraction, rest) := match cs.dropWhile Char.isDigit with
      | '.' :: rest => (rest.takeWhile Char.isDigit, rest.dropWhile Char.isDigit)
      | rest => ([], rest)
    if whole.isEmpty && fraction.isEmpty then none
    else (exponent? rest).map fun exponent =>
      ofDecimal negative (Text.digitsValue (whole ++ fraction)) (exponent - fraction.length)

/-- The number nearest to the one that is written. -/
def ofChars? (cs : List Char) : Option Binary64 :=
  let (negative, rest) := sign cs
  unsigned? negative rest

/-- The text without an exponent, and without a point in an integer. -/
def positional (x : Binary64) : String :=
  match x.toText ⟨-400, 400, ""⟩ with
  | some text =>
    if text.endsWith ".0" then String.ofList (text.toList.take (text.length - 2)) else text
  | none => if x.isNaN then "NaN" else if x.negative then "-inf" else "inf"

end Resilience.Binary64
