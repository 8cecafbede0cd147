import TiledStream.Number.Binary64
import TiledStream.Text.Unsigned

/-! Decimal texts as binary64 numbers. `readFloat?` gives the number nearest to what the text
denotes. `scaleByTens?` multiplies or divides once, and so may miss the nearest by a little.
`Binary64.fixed` writes a number to a count of places. -/

namespace TiledStream.Number

/-- The number nearest to a whole number times a power of ten. Bounds on the count of digits keep
the powers small. -/
def nearest (digits : Nat) (exponent : Int) : Binary64 :=
  let size := (Text.digitsOf digits).length + exponent
  if digits = 0 ∨ size < -323 then .finite 0 Binary64.leastExponent
  else if 309 < size then .infinite
  else if 0 ≤ exponent then .ofRatio (digits * 10 ^ exponent.toNat) 1
  else .ofRatio digits (10 ^ (-exponent).toNat)

def readDigits? (text : List Char) : Option Nat :=
  if text = [] ∨ text.all Char.isDigit = false then none else some (Text.numberOf text)

def readInteger? : List Char → Option Int
  | '-' :: digits => (readDigits? digits).map fun number => -(number : Int)
  | '+' :: digits => (readDigits? digits).map fun number => (number : Int)
  | digits => (readDigits? digits).map fun number => (number : Int)

def readExponent? : List Char → Option Int
  | [] => some 0
  | mark :: rest => if mark = 'e' ∨ mark = 'E' then readInteger? rest else none

def readMagnitude? (text : List Char) : Option Binary64 :=
  let whole := text.takeWhile Char.isDigit
  let rest := text.dropWhile Char.isDigit
  let (fraction, rest) :=
    match rest with
    | '.' :: rest => (rest.takeWhile Char.isDigit, rest.dropWhile Char.isDigit)
    | _ => ([], rest)
  if whole.isEmpty && fraction.isEmpty then none
  else (readExponent? rest).map fun exponent =>
    nearest (Text.numberOf (whole ++ fraction)) (exponent - fraction.length)

def readUnsignedFloat? (text : List Char) : Option Float :=
  let name := String.ofList (text.map Char.toLower)
  if name = "inf" ∨ name = "infinity" then some Binary64.infinite.toFloat
  else if name = "nan" then some (0.0 / 0.0)
  else (readMagnitude? text).map Binary64.toFloat

def readFloat? : List Char → Option Float
  | '-' :: rest => (readUnsignedFloat? rest).map fun value => -value
  | '+' :: rest => readUnsignedFloat? rest
  | text => readUnsignedFloat? text

def greatestTens : Nat := 308

def divideTens (value : Float) (exponent : Nat) : Float :=
  if exponent ≤ greatestTens then value / floatOfNat (10 ^ exponent)
  else if value == 0.0 then value
  else divideTens (value / floatOfNat (10 ^ greatestTens)) (exponent - greatestTens)
  termination_by exponent
  decreasing_by simp only [greatestTens] at *; omega

def scaleByTens? (value : Float) (exponent : Int) : Option Float :=
  if exponent < 0 then some (divideTens value (-exponent).toNat)
  else if exponent.toNat ≤ greatestTens then
    let product := value * floatOfNat (10 ^ exponent.toNat)
    if product.isInf then none else some product
  else if value == 0.0 then some value else none

def Binary64.fixed (places : Nat) : Binary64 → List Char
  | .finite significand exponent =>
    let scaled := scaleRatio (significand * 10 ^ places) 1 (-exponent)
    let digits := divideToEven scaled.1 scaled.2
    Text.digitsOf (digits / 10 ^ places) ++ '.' :: Text.padded places (digits % 10 ^ places)
  | .infinite => "inf".toList

end TiledStream.Number
