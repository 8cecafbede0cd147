import TiledStream.Prelude

/-! Unsigned decimal numbers: a run of ASCII digits, read with an optional plus sign and written
without one. -/

namespace TiledStream.Text

def digitValue (c : Char) : Nat := c.toNat - '0'.toNat

def numberOf (digits : List Char) : Nat :=
  digits.foldl (fun total c => total * 10 + digitValue c) 0

def digitsOf (number : Nat) : List Char := Nat.toDigits 10 number

def readDigits? (bits : Nat) (text : List Char) : Option Nat :=
  if text = [] ∨ text.all Char.isDigit = false then none
  else if numberOf text < 2 ^ bits then some (numberOf text) else none

def readUnsigned? (bits : Nat) : List Char → Option Nat
  | '+' :: digits => readDigits? bits digits
  | text => readDigits? bits text

def padded (width number : Nat) : List Char := (digitsOf number).leftpad width '0'

end TiledStream.Text
