/-!
Numbers of 64 bits in binary floating point: decoding, and rounding of exact quotients to the
nearest number, where a tie goes to the even one.
-/

namespace Resilience

/-- The bits of a number: a sign, eleven of exponent and fifty-two of fraction. -/
structure Binary64 where
  bits : UInt64
deriving DecidableEq, Inhabited

/-- The quotient rounded to the nearest integer, a tie to the even one. -/
def roundDiv (num den : Nat) : Nat :=
  let q := num / den
  let r := num % den
  if 2 * r < den then q
  else if den < 2 * r then q + 1
  else if q % 2 = 0 then q else q + 1

namespace Binary64

def negative (x : Binary64) : Bool := x.bits >>> 63 = 1

def exponentField (x : Binary64) : Nat := ((x.bits >>> 52) &&& 0x7ff).toNat

def fractionField (x : Binary64) : Nat := (x.bits &&& 0xfffffffffffff).toNat

def isFinite (x : Binary64) : Bool := x.exponentField != 0x7ff

def isNaN (x : Binary64) : Bool := !x.isFinite && x.fractionField != 0

/-- The integer factor of the magnitude, which is `x.factor * 2 ^ x.power` for a finite number. -/
def factor (x : Binary64) : Nat :=
  if x.exponentField = 0 then x.fractionField else x.fractionField + 1 <<< 52

def power (x : Binary64) : Int :=
  if x.exponentField = 0 then -1074 else (x.exponentField : Int) - 1075

def isZero (x : Binary64) : Bool := x.isFinite && x.factor = 0

def magnitude (x : Binary64) : Nat × Nat :=
  (x.factor <<< x.power.toNat, 1 <<< (-x.power).toNat)

def withSign (negative : Bool) (magnitude : UInt64) : Binary64 :=
  ⟨if negative then magnitude ||| 0x8000000000000000 else magnitude⟩

def zero (negative : Bool) : Binary64 := withSign negative 0

def infinity (negative : Bool) : Binary64 := withSign negative 0x7ff0000000000000

def nan : Binary64 := ⟨0x7ff8000000000000⟩

def one : Binary64 := ⟨0x3ff0000000000000⟩

/-- The number nearest to `num / den`, infinite when that is beyond every finite number. -/
def ofRatio (negative : Bool) (num den : Nat) : Binary64 :=
  if num = 0 then zero negative
  else
    let guess : Int := (num.log2 : Int) - den.log2 - 52
    let small : Bool := num <<< (-guess).toNat < den <<< (guess.toNat + 52)
    let power := max (if small then guess - 1 else guess) (-1074)
    let factor := roundDiv (num <<< (-power).toNat) (den <<< power.toNat)
    let (factor, power) := if factor = 1 <<< 53 then (1 <<< 52, power + 1) else (factor, power)
    if power > 971 then infinity negative
    else if factor < 1 <<< 52 then withSign negative factor.toUInt64
    else withSign negative ((power + 1074).toNat <<< 52 + factor).toUInt64

def ofNat (n : Nat) : Binary64 := ofRatio false n 1

def ofInt (n : Int) : Binary64 := ofRatio (n < 0) n.natAbs 1

def tenPow (n : Nat) : Binary64 := ofNat (Nat.pow 10 n)

def mul (x y : Binary64) : Binary64 :=
  ofRatio false (x.magnitude.1 * y.magnitude.1) (x.magnitude.2 * y.magnitude.2)

def div (x y : Binary64) : Binary64 :=
  ofRatio false (x.magnitude.1 * y.magnitude.2) (x.magnitude.2 * y.magnitude.1)

/-- The number nearest to `digits * 10 ^ exponent`. -/
def ofDecimal (negative : Bool) (digits : Nat) (exponent : Int) : Binary64 :=
  if digits = 0 then zero negative
  else
    let top : Int := (digits.log2 : Int) / 4 + exponent
    if top > 400 then infinity negative
    else if (digits.log2 : Int) + exponent < -400 then zero negative
    else ofRatio negative (digits * Nat.pow 10 exponent.toNat) (Nat.pow 10 (-exponent).toNat)

/-- Whether the first number is below the second. Nothing is below NaN, nor is it below anything. -/
def lt (x y : Binary64) : Bool :=
  let signed (z : Binary64) : Int :=
    let m : Int := (z.bits &&& 0x7fffffffffffffff).toNat
    if z.negative then -m else m
  !x.isNaN && !y.isNaN && signed x < signed y

/-- The number kept between zero and one; NaN becomes zero. -/
def clampUnit (x : Binary64) : Binary64 :=
  if x.isNaN then zero false
  else if lt x (zero false) then zero false
  else if lt one x then one
  else x

/-- The nearest integer, a half away from zero. -/
def roundAway (x : Binary64) : Int :=
  let (num, den) := x.magnitude
  let n : Int := ((2 * num + den) / (2 * den) : Nat)
  if x.negative then -n else n

end Binary64

end Resilience
