import TiledStream.Selection.Selector
import TiledStream.Number.Binary64

/-! Prediction of quality from the distance to the tile in view, on a grid whose opposite edges
meet. -/

namespace TiledStream

instance : Quality Float where
  ofNat := Number.floatOfNat
  sub left right := left - right
  mul left right := left * right
  div left right := left / right
  atLeastZero value := if 0.0 < value then value else 0.0
  toUnit value :=
    if value.isNaN then 0.0 else if value < 0.0 then 0.0 else if 1.0 < value then 1.0 else value
  round value := value.round.toUInt64.toNat

def ringDistance (left right length : Nat) : Nat :=
  let direct := (left - right) + (right - left)
  min direct (length - direct)

namespace Coordinate

def packed (tile : Coordinate) : UInt64 := tile.x.toUInt64 <<< 32 ||| tile.y.toUInt64

def ofPacked (word : UInt64) : Coordinate :=
  { x := (word >>> 32).toUInt32.toNat, y := word.toUInt32.toNat }

end Coordinate

structure Viewport (K : Type) where
  grid : Grid
  factor : K
  /-- The tile in view, in one word so that it is never read half moved. -/
  viewWord : UInt64

namespace Viewport

variable {K : Type}

def start (grid : Grid) (factor : K) : Viewport K := { grid, factor, viewWord := 0 }

def lookAt (viewport : Viewport K) (tile : Coordinate) : Viewport K :=
  let inside : Coordinate := {
    x := tile.x % max viewport.grid.columns 1
    y := tile.y % max viewport.grid.rows 1 }
  { viewport with viewWord := inside.packed }

def view (viewport : Viewport K) : Coordinate := .ofPacked viewport.viewWord

def ringShare [Quality K] (left right length : Nat) : K :=
  Quality.div (Quality.ofNat (ringDistance left right length)) (Quality.ofNat length)

def predict [Quality K] (viewport : Viewport K) (tile : Coordinate) : K :=
  let across := ringShare tile.x viewport.view.x (max viewport.grid.columns 1)
  let down := ringShare tile.y viewport.view.y (max viewport.grid.rows 1)
  Quality.atLeastZero
    (Quality.sub (Quality.sub (Quality.ofNat 1) (Quality.mul viewport.factor across))
      (Quality.mul viewport.factor down))

def selector [Quality K] (viewport : Viewport K) : Selector := Selector.predictive viewport.predict

end Viewport

end TiledStream
