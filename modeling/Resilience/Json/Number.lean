import Resilience.Binary64.Shortest
import Resilience.Text.Digits

/-!
Numbers of JSON: integers that fit 64 bits, with or without a sign, and binary floating point for
the rest.
-/

namespace Resilience

/-- An integer from `-2 ^ 63` up to, not including, `2 ^ 64`, or a finite floating-point number. -/
inductive Number where
  | int (value : Int)
  | float (value : Binary64)
deriving DecidableEq

namespace Number

def toBinary64 : Number → Binary64
  | int n => Binary64.ofInt n
  | float x => x

def text : Number → String
  | .int n => toString n
  | .float x => (x.toText Binary64.plain).getD "null"

/-- The parts of a number as written, all of them digits. -/
structure Literal where
  negative : Bool
  whole : List Char
  fraction : List Char
  /-- Sign and digits, if there is an exponent. -/
  exponent : Option (Bool × List Char)

/-- Splits the sign off an exponent. -/
def exponentSign : List Char → Bool × List Char
  | '-' :: digits => (true, digits)
  | '+' :: digits => (false, digits)
  | digits => (false, digits)

/-- Reads an optional exponent at the end of a number. -/
def splitExponent : List Char → Option (Option (Bool × List Char))
  | [] => some none
  | e :: rest =>
    if e = 'e' ∨ e = 'E' then
      let (negative, digits) := exponentSign rest
      if digits.isEmpty || !digits.all Char.isDigit then none else some (some (negative, digits))
    else none

/-- Reads what follows the sign of a number. -/
def unsigned? (negative : Bool) (cs : List Char) : Option Literal :=
  let whole := cs.takeWhile Char.isDigit
  if whole.isEmpty || (1 < whole.length && whole.head? = some '0') then none
  else match cs.dropWhile Char.isDigit with
    | '.' :: rest =>
      let fraction := rest.takeWhile Char.isDigit
      if fraction.isEmpty then none
      else (splitExponent (rest.dropWhile Char.isDigit)).map (⟨negative, whole, fraction, ·⟩)
    | rest => (splitExponent rest).map (⟨negative, whole, [], ·⟩)

/-- Reads the grammar of a number: no superfluous leading zero, and a digit on each side of the
point. -/
def literal? : List Char → Option Literal
  | '-' :: cs => unsigned? true cs
  | cs => unsigned? false cs

/-- Takes digits into a number below `2 ^ 64` for as long as it fits. Answers the number, how many
digits were taken and how many were left. -/
def significant (start : Nat) : List Char → Nat × Nat × Nat
  | [] => (start, 0, 0)
  | c :: cs =>
    let next := 10 * start + Text.digitValue c
    if next < UInt64.size then
      let (n, taken, left) := significant next cs
      (n, taken + 1, left)
    else (start, 0, cs.length + 1)

/-- Divides by ten to the power `n`, in steps of at most 308. -/
def scaleDown (x : Binary64) (n : Nat) : Binary64 :=
  if n ≤ 308 then x.div (Binary64.tenPow n)
  else if x.isZero then x
  else scaleDown (x.div (Binary64.tenPow 308)) (n - 308)
termination_by n
decreasing_by omega

/-- The significant digits scaled by one power of ten; none when that is beyond every finite
number. -/
def scaled (digits : Nat) (exponent : Int) : Option Binary64 :=
  let x := Binary64.ofNat digits
  if exponent < 0 then some (scaleDown x exponent.natAbs)
  else if exponent ≤ 308 then
    let y := x.mul (Binary64.tenPow exponent.toNat)
    if y.isFinite then some y else none
  else if x.isZero then some x
  else none

/-- The value of a written number, unless it is too large. Only the leading digits that fit 64 bits
count. -/
def ofLiteral (n : Literal) : Option Number :=
  let (whole, _, left) := significant 0 n.whole
  if left = 0 ∧ n.fraction = [] ∧ n.exponent = none then
    if !n.negative then some (.int whole)
    else if whole = 0 ∨ 1 <<< 63 < whole then
      some (.float (Binary64.ofRatio true whole 1))
    else some (.int (-whole))
  else
    let (digits, taken, _) := significant whole n.fraction
    let written : Int := match n.exponent with
      | none => 0
      | some (true, ds) => -(Text.digitsValue ds : Int)
      | some (false, ds) => Text.digitsValue ds
    (scaled digits (left - taken + written)).map fun x =>
      .float (if n.negative then ⟨x.bits ||| 0x8000000000000000⟩ else x)

end Number

end Resilience
