import Resilience.Binary64.Decimal
import Resilience.Text.Chars
import Resilience.Toml.Basic

/-!
How a value becomes a setting of a type. The strict way takes values of that type only; the lenient
one converts between types.
-/

namespace Resilience

structure Conversion where
  natural : Toml → Option Nat
  truth : Toml → Option Bool
  number : Toml → Option Binary64
  text : Toml → Option String
  /-- A name to choose by, in the case of the choices. -/
  choice : Toml → Option String

namespace Conversion

/-- Numbers of a word of 32 bits. -/
def word (c : Conversion) (v : Toml) : Option UInt32 := do
  let n ← c.natural v
  guard (n < UInt32.size)
  some n.toUInt32

def texts (c : Conversion) : Toml → Option (List String)
  | .array items => items.mapM c.text
  | _ => none

def strict : Conversion where
  natural
    | .int n => if 0 ≤ n then some n.toNat else none
    | _ => none
  truth
    | .bool b => some b
    | _ => none
  number
    | .float x => some x
    | .int n => some (Binary64.ofInt n)
    | _ => none
  text
    | .text s => some s
    | _ => none
  choice
    | .text s => some s
    | .table [(name, .table [])] | .table [(name, .array [])] => some name
    | _ => none

/-- What a word says about truth, in any case. -/
def wordTruth? (s : String) : Option Bool :=
  let word := String.ofList (s.toList.map Char.toLower)
  if word = "true" ∨ word = "on" ∨ word = "yes" then some true
  else if word = "false" ∨ word = "off" ∨ word = "no" then some false
  else none

/-- The number that digits spell, perhaps after a plus sign, if it has at most 64 bits. -/
def naturalText? (s : String) : Option Nat :=
  let digits := match s.toList with
    | '+' :: rest => rest
    | cs => cs
  let n := Text.digitsValue digits
  if !digits.isEmpty ∧ digits.all Char.isDigit ∧ n < UInt64.size then some n else none

/-- The nearest natural number of 64 bits. -/
def nearestNatural (x : Binary64) : Nat :=
  if x.isNaN || x.negative then 0
  else if x.isFinite then min x.roundAway.toNat (UInt64.size - 1)
  else UInt64.size - 1

def bit (b : Bool) : Nat := if b then 1 else 0

def lenient : Conversion where
  natural
    | .int n => if 0 ≤ n then some n.toNat else none
    | .bool b => some (bit b)
    | .float x => some (nearestNatural x)
    | .text s => ((wordTruth? s).map bit).or (naturalText? s)
    | _ => none
  truth
    | .bool b => some b
    | .int n => some (n != 0)
    | .float x => some (!x.isZero)
    | .text s =>
      if s = "1" then some true else if s = "0" then some false else wordTruth? s
    | _ => none
  number
    | .float x => some x
    | .int n => some (Binary64.ofInt n)
    | .bool b => some (Binary64.ofNat (bit b))
    | .text s =>
      ((wordTruth? s).map fun b => Binary64.ofNat (bit b)).or (Binary64.ofChars? s.toList)
    | _ => none
  text
    | .text s => some s
    | .bool b => some (toString b)
    | .int n => some (toString n)
    | .float x => some x.positional
    | _ => none
  choice
    | .text s => some (Text.lower s)
    | .table [(name, _)] => some (Text.lower name)
    | _ => none

end Conversion

end Resilience
