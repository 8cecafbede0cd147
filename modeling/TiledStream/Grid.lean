import TiledStream.Fault

/-! Tiles of a rectangular grid, their raster positions and their numbers, which start at one. -/

namespace TiledStream

structure Grid where
  columns : Nat
  rows : Nat
  deriving DecidableEq

structure Extent where
  width : Nat
  height : Nat
  deriving DecidableEq

structure Coordinate where
  x : Nat
  y : Nat
  deriving DecidableEq

def Grid.contains (grid : Grid) (tile : Coordinate) : Bool :=
  decide (tile.x < grid.columns) && decide (tile.y < grid.rows)

namespace Coordinate

def rasterIndex (tile : Coordinate) (columns : Nat) : Except Fault Nat :=
  fitWord 32 (tile.y * columns + tile.x)

def tileIndex (tile : Coordinate) (columns : Nat) : Except Fault Nat :=
  fitWord 32 (tile.x + tile.y * columns + 1)

def ofTileIndex (index columns : Nat) : Except Fault Coordinate :=
  if index = 0 then .error .outOfRange
  else if columns = 0 then .error .zeroDivision
  else .ok { x := (index - 1) % columns, y := (index - 1) / columns }

def text (tile : Coordinate) : String := s!"({tile.x}, {tile.y})"

def precedes (left right : Coordinate) : Bool :=
  decide (left.x < right.x) || (left.x == right.x && decide (left.y ≤ right.y))

end Coordinate

end TiledStream
