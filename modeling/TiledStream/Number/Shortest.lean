import TiledStream.Number.Binary64
import TiledStream.Text.Unsigned

/-! The decimal number with the fewest digits that reads back as a given binary64 number, and of
several such numbers the nearest. -/

namespace TiledStream.Number

structure Decimal where
  digits : Nat
  exponent : Int
  deriving DecidableEq

/-- The reals that round to a number, its value in the middle, all four parts over one common
denominator. The ends belong to it when `closed` holds. -/
structure RoundingRange where
  low : Nat
  value : Nat
  high : Nat
  unit : Nat
  closed : Bool

def RoundingRange.holds (range : RoundingRange) (numerator denominator : Nat) : Bool :=
  let point := numerator * range.unit
  let low := range.low * denominator
  let high := range.high * denominator
  if range.closed then low ≤ point && point ≤ high else low < point && point < high

/-- The range of a positive number. Below a power of two the neighbours lie closer. -/
def roundingRange (significand : Nat) (exponent : Int) : RoundingRange :=
  let below := if significand = 2 ^ 52 ∧ Binary64.leastExponent < exponent then 1 else 2
  let scaled := scaleRatio 1 1 (-exponent)
  { low := (4 * significand - below) * scaled.1
    value := 4 * significand * scaled.1
    high := (4 * significand + 2) * scaled.1
    unit := 4 * scaled.2
    closed := significand % 2 == 0 }

def RoundingRange.nearest? (range : RoundingRange) (exponent : Int) : Option Decimal :=
  let power : Nat × Nat :=
    if 0 ≤ exponent then (10 ^ exponent.toNat, 1) else (1, 10 ^ (-exponent).toNat)
  let lower := range.value * power.2 / (range.unit * power.1)
  let remainder := range.value * power.2 % (range.unit * power.1)
  let fits (digits : Nat) : Bool := range.holds (digits * power.1) power.2
  let upperNearer := range.unit * power.1 < 2 * remainder ||
    (range.unit * power.1 == 2 * remainder && lower % 2 == 1)
  match fits lower, fits (lower + 1) with
  | true, true => some { digits := if upperNearer then lower + 1 else lower, exponent }
  | true, false => some { digits := lower, exponent }
  | false, true => some { digits := lower + 1, exponent }
  | false, false => none

def RoundingRange.search (range : RoundingRange) (exponent : Int) : Nat → Option Decimal
  | 0 => none
  | steps + 1 =>
    match range.nearest? exponent with
    | some decimal => some decimal
    | none => range.search (exponent - 1) steps

def shortest : Binary64 → Option Decimal
  | .finite 0 _ => some { digits := 0, exponent := 0 }
  | .finite significand exponent =>
    let range := roundingRange significand exponent
    let whole := range.value / range.unit
    let start : Int :=
      if 0 < whole then ((Nat.toDigits 10 whole).length : Int)
      else 1 - (((range.unit / range.value).log2 * 3 / 10 : Nat) : Int)
    range.search start (start.toNat + 350)
  | .infinite => none

def Decimal.text (decimal : Decimal) : List Char :=
  let digits := Text.digitsOf decimal.digits
  if 0 ≤ decimal.exponent then
    if decimal.digits = 0 then digits else digits ++ List.replicate decimal.exponent.toNat '0'
  else
    let places := (-decimal.exponent).toNat
    let filled := digits.leftpad (places + 1) '0'
    filled.take (filled.length - places) ++ '.' :: filled.drop (filled.length - places)

end TiledStream.Number
