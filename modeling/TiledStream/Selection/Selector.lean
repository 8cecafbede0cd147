import TiledStream.Grid

/-! Choosing a representation of a tile for its next segment. -/

namespace TiledStream

/-- The choice for a tile, given how many choices it has asked for before and how many
representations it has. A choice may lie beyond the last representation. -/
abbrev Selector := (tile : Coordinate) → (earlier count : Nat) → Except Fault Nat

def clampIndex (index count : Nat) : Nat := min index (count - 1)

def Selector.constant (index : Nat) : Selector := fun _ _ count => .ok (clampIndex index count)

def Selector.lowest : Selector := .constant 0

def Selector.highest : Selector := .constant (2 ^ 64 - 1)

/-- Follows a script over and over, tile by tile, and gives up where the script is silent. -/
def Selector.scripted (script : List (Option Nat)) : Selector := fun _ earlier _ =>
  match script[earlier % script.length]? with
  | some (some choice) => .ok choice
  | _ => .error .collaborator

/-- Arithmetic that predictions are made in: binary64 when they run, rational numbers in their
theory. -/
class Quality (K : Type) where
  ofNat : Nat → K
  sub : K → K → K
  mul : K → K → K
  div : K → K → K
  /-- Zero in place of what is not above it. -/
  atLeastZero : K → K
  /-- The nearest value between zero and one; zero for what has no order. -/
  toUnit : K → K
  /-- The nearest whole number, a half going up, at most the greatest of 64 bits. -/
  round : K → Nat

def predictedIndex {K : Type} [Quality K] (share : K) (count : Nat) : Nat :=
  clampIndex (Quality.round (Quality.mul (Quality.ofNat count) (Quality.toUnit share))) count

def Selector.predictive {K : Type} [Quality K] (predict : Coordinate → K) : Selector :=
  fun tile _ count => .ok (predictedIndex (predict tile) count)

end TiledStream
