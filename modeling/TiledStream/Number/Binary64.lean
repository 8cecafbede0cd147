import TiledStream.Prelude

/-! Nonnegative binary64 numbers as exact values, with rounding to the nearest one, a tie going to
the even significand. -/

namespace TiledStream.Number

/-- A finite magnitude is the significand times two to the exponent. -/
inductive Binary64 where
  | finite (significand : Nat) (exponent : Int)
  | infinite
  deriving DecidableEq

def divideToEven (numerator denominator : Nat) : Nat :=
  let quotient := numerator / denominator
  let twice := 2 * (numerator % denominator)
  if twice < denominator then quotient
  else if denominator < twice then quotient + 1
  else if quotient % 2 = 0 then quotient else quotient + 1

def scaleRatio (numerator denominator : Nat) (exponent : Int) : Nat × Nat :=
  if 0 ≤ exponent then (numerator, denominator * 2 ^ exponent.toNat)
  else (numerator * 2 ^ (-exponent).toNat, denominator)

namespace Binary64

def leastExponent : Int := -1074

def greatestExponent : Int := 971

/-- The exponent that leaves 53 bits before the point, unless the number is too small for it. -/
def exponentOf (numerator denominator : Nat) : Int :=
  let guess := max leastExponent ((numerator.log2 : Int) - denominator.log2 - 52)
  let scaled := scaleRatio numerator denominator guess
  if scaled.1 / scaled.2 < 2 ^ 52 then max leastExponent (guess - 1) else guess

def ofRatio (numerator denominator : Nat) : Binary64 :=
  let exponent := exponentOf numerator denominator
  let scaled := scaleRatio numerator denominator exponent
  let significand := divideToEven scaled.1 scaled.2
  if significand = 2 ^ 53 then
    if greatestExponent ≤ exponent then .infinite else .finite (2 ^ 52) (exponent + 1)
  else if greatestExponent < exponent then .infinite
  else .finite significand exponent

def ofNat (number : Nat) : Binary64 := ofRatio number 1

def times (factor : Nat) : Binary64 → Binary64
  | .finite significand exponent =>
    if 0 ≤ exponent then ofRatio (significand * factor * 2 ^ exponent.toNat) 1
    else ofRatio (significand * factor) (2 ^ (-exponent).toNat)
  | .infinite => if factor = 0 then .finite 0 leastExponent else .infinite

def roundUpTo (limit : Nat) : Binary64 → Nat
  | .finite significand exponent =>
    if 0 ≤ exponent then min limit (significand * 2 ^ exponent.toNat)
    else
      let unit := 2 ^ (-exponent).toNat
      min limit ((2 * significand + unit) / (2 * unit))
  | .infinite => limit

def bits : Binary64 → Nat
  | .finite significand exponent =>
    if significand < 2 ^ 52 then significand
    else (exponent + 1075).toNat * 2 ^ 52 + (significand - 2 ^ 52)
  | .infinite => 2047 * 2 ^ 52

def toFloat (number : Binary64) : Float := Float.ofBits number.bits.toUInt64

end Binary64

def floatOfNat (number : Nat) : Float := (Binary64.ofNat number).toFloat

end TiledStream.Number
