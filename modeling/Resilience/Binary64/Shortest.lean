import Resilience.Binary64

/-!
The shortest decimal text that reads back as a given number, and of these the one nearest to it.
-/

namespace Resilience.Binary64

/-- How a decimal text is laid out. -/
structure Layout where
  /-- Least decimal exponent that is written without an exponent. -/
  least : Int
  /-- Least decimal exponent, above that, that is written with one. -/
  beyond : Int
  /-- Written between an exponent sign and a positive exponent. -/
  plus : String

/-- Numbers from 0.00001 up to, not including, ten to the power 16 are written without an exponent
and with at least one digit after the point. -/
def plain : Layout := ⟨-5, 16, "+"⟩

/-- The decimal exponent of a positive quotient: `10 ^ e ≤ num / den < 10 ^ (e + 1)`. -/
def decimalExponent (num den : Nat) : Int :=
  let reaches (e : Int) : Bool := den * Nat.pow 10 e.toNat ≤ num * Nat.pow 10 (-e).toNat
  let guess : Int := (((num.log2 : Int) - den.log2) * 1233) / 4096
  if reaches (guess + 1) then guess + 1
  else if reaches guess then guess
  else guess - 1

def gap (a b : Nat) : Nat := (a - b) + (b - a)

/-- The nearest of the two neighbours of a number on the decimal grid with step `10 ^ step` that
lies in the interval of quotients which round to the number. The three points of the number's
interval are quotients over `den`; its ends belong to it if `closed` holds. -/
def neighbour (low mid high den : Nat) (closed : Bool) (step : Int) : Option Nat :=
  let up := Nat.pow 10 (-step).toNat
  let down := den * Nat.pow 10 step.toNat
  let inside (d : Nat) : Bool :=
    let x := d * down
    if closed then low * up ≤ x && x ≤ high * up else low * up < x && x < high * up
  let below := mid * up / down
  let above := below + 1
  let far (d : Nat) : Nat := gap (d * down) (mid * up)
  match inside below, inside above with
  | true, true =>
    if far below < far above then some below
    else if far above < far below then some above
    else some (if below % 2 = 0 then below else above)
  | true, false => some below
  | false, true => some above
  | false, false => none

/-- Digits, as one number without trailing zeros, and the exponent of their last place. -/
def dropZeros : Nat → Nat → Int → Nat × Int
  | 0, digits, step => (digits, step)
  | fuel + 1, digits, step =>
    if digits % 10 = 0 ∧ digits ≠ 0 then dropZeros fuel (digits / 10) (step + 1)
    else (digits, step)

/-- The shortest digits of a finite number other than zero and the exponent of their last place. -/
def shortest (x : Binary64) : Nat × Int :=
  let (mid, den) := x.magnitude
  let edge : Bool := x.factor = 1 <<< 52 && x.power ≠ -1074
  let unit := 1 <<< x.power.toNat
  let (low, mid, high, den) :=
    (4 * mid - (if edge then unit else 2 * unit), 4 * mid, 4 * mid + 2 * unit, 4 * den)
  let top := decimalExponent mid den
  let steps := (List.range 17).map fun (n : Nat) => top - n
  match steps.findSome? fun step =>
      (neighbour low mid high den (x.factor % 2 = 0) step).map fun d => (d, step) with
  | some (d, step) => dropZeros 20 d step
  | none => (0, 0)

/-- Digits and the exponent of their last place, written out. -/
def layOut (style : Layout) (digits : Nat) (step : Int) : String :=
  let text := (Nat.toDigits 10 digits)
  let top := step + (text.length : Int) - 1
  if style.least ≤ top ∧ top < style.beyond then
    if 0 ≤ step then
      String.ofList (text ++ List.replicate step.toNat '0') ++ ".0"
    else if 0 ≤ top then
      let whole := (top + 1).toNat
      String.ofList (text.take whole) ++ "." ++ String.ofList (text.drop whole)
    else
      "0." ++ String.ofList (List.replicate (-top - 1).toNat '0') ++ String.ofList text
  else
    let exponent := (if top < 0 then "-" else style.plus) ++ toString top.natAbs
    match text with
    | [] => ""
    | [d] => String.ofList [d] ++ "e" ++ exponent
    | d :: rest => String.ofList [d] ++ "." ++ String.ofList rest ++ "e" ++ exponent

/-- The shortest text of a finite number; what has no finite value has none. -/
def toText (style : Layout) (x : Binary64) : Option String :=
  if !x.isFinite then none
  else
    let sign := if x.negative then "-" else ""
    if x.isZero then some (sign ++ "0.0")
    else
      let (digits, step) := x.shortest
      some (sign ++ layOut style digits step)

end Resilience.Binary64
