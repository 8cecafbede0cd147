import Mathlib.Logic.Equiv.Defs
import TiledStream.Proofs.Manifest.Safety

/-! The tiles of a grid are numbered from one, row by row, and a number and a tile tell each
other. -/

namespace TiledStream

open Manifest (contains_iff)
open Presentation (position_lt rasterTile rasterTile_position)

namespace Coordinate

def IsBefore (left right : Coordinate) : Prop :=
  left.y < right.y ∨ left.y = right.y ∧ left.x < right.x

/-- The raster position, with a word for the product and for the sum. -/
def rasterIndexByParts (tile : Coordinate) (columns : Nat) : Except Fault Nat := do
  let above ← fitWord 32 (tile.y * columns)
  fitWord 32 (above + tile.x)

def tileIndexByParts (tile : Coordinate) (columns : Nat) : Except Fault Nat := do
  let above ← fitWord 32 (tile.y * columns)
  let before ← fitWord 32 (tile.x + above)
  fitWord 32 (before + 1)

/-- What leaves its word on the way leaves it in the end. -/
theorem rasterIndexByParts_eq (tile : Coordinate) (columns : Nat) :
    tile.rasterIndexByParts columns = tile.rasterIndex columns := by
  unfold rasterIndexByParts rasterIndex
  rw [fitWord_bind]
  split
  · rfl
  · rw [fitWord, if_neg (by omega)]

theorem tileIndexByParts_eq (tile : Coordinate) (columns : Nat) :
    tile.tileIndexByParts columns = tile.tileIndex columns := by
  unfold tileIndexByParts tileIndex
  rw [fitWord_bind]
  split
  · rw [fitWord_bind]
    split
    · rfl
    · rw [fitWord, if_neg (by omega)]
  · rw [fitWord, if_neg (by omega)]

theorem position_lt_of_row {left right : Coordinate} {columns : Nat} (column : left.x < columns)
    (row : left.y < right.y) : left.y * columns + left.x < right.y * columns + right.x := by
  have full : (left.y + 1) * columns ≤ right.y * columns := Nat.mul_le_mul_right columns row
  rw [Nat.add_mul, Nat.one_mul] at full
  omega

theorem isBefore_iff {left right : Coordinate} {columns : Nat} (leftColumn : left.x < columns)
    (rightColumn : right.x < columns) :
    left.IsBefore right ↔ left.y * columns + left.x < right.y * columns + right.x := by
  constructor
  · rintro (row | ⟨row, column⟩)
    · exact position_lt_of_row leftColumn row
    · rw [row]
      omega
  · intro less
    rcases Nat.lt_trichotomy left.y right.y with above | same | below
    · exact .inl above
    · rw [same] at less
      exact .inr ⟨same, by omega⟩
    · have greater := position_lt_of_row rightColumn below
      omega

end Coordinate

namespace Grid

variable {grid : Grid} {tile : Coordinate} {number : Nat}

theorem number_bounds (inside : grid.contains tile = true) :
    1 ≤ tile.y * grid.columns + tile.x + 1 ∧
      tile.y * grid.columns + tile.x + 1 ≤ grid.columns * grid.rows := by
  obtain ⟨column, row⟩ := contains_iff.mp inside
  exact ⟨Nat.succ_pos _, position_lt column row⟩

theorem contains_rasterTile (bounds : 1 ≤ number ∧ number ≤ grid.columns * grid.rows) :
    grid.contains (rasterTile grid.columns (number - 1)) = true := by
  have bound : number - 1 < grid.columns * grid.rows := by omega
  have columns : 0 < grid.columns := Nat.pos_of_mul_pos_right (Nat.zero_lt_of_lt bound)
  exact contains_iff.mpr ⟨Nat.mod_lt _ columns, Nat.div_lt_of_lt_mul bound⟩

def numberOf (grid : Grid) (tile : { tile : Coordinate // grid.contains tile = true }) :
    { number : Nat // 1 ≤ number ∧ number ≤ grid.columns * grid.rows } :=
  ⟨tile.1.y * grid.columns + tile.1.x + 1, number_bounds tile.2⟩

def tileOf (grid : Grid) (number : { number : Nat // 1 ≤ number ∧
      number ≤ grid.columns * grid.rows }) : { tile : Coordinate // grid.contains tile = true } :=
  ⟨rasterTile grid.columns (number.1 - 1), contains_rasterTile number.2⟩

theorem tileOf_numberOf : Function.LeftInverse grid.tileOf grid.numberOf := by
  intro tile
  obtain ⟨column, _⟩ := contains_iff.mp tile.2
  exact Subtype.ext (rasterTile_position tile.1.y column)

theorem numberOf_tileOf : Function.RightInverse grid.tileOf grid.numberOf := by
  intro number
  apply Subtype.ext
  have position := Nat.div_add_mod' (number.1 - 1) grid.columns
  have one := number.2.1
  simp only [numberOf, tileOf, rasterTile]
  omega

def numbering (grid : Grid) :
    { tile : Coordinate // grid.contains tile = true } ≃
      { number : Nat // 1 ≤ number ∧ number ≤ grid.columns * grid.rows } :=
  ⟨grid.numberOf, grid.tileOf, tileOf_numberOf, numberOf_tileOf⟩

theorem tileIndex_eq_number (small : grid.columns * grid.rows < 2 ^ 32)
    (tile : { tile : Coordinate // grid.contains tile = true }) :
    tile.1.tileIndex grid.columns = .ok (grid.numbering tile) := by
  have most := (grid.numbering tile).2.2
  have number : (grid.numbering tile).1 = tile.1.y * grid.columns + tile.1.x + 1 := rfl
  exact (fitWord_eq_ok_iff _ _ _).mpr ⟨by omega, by omega⟩

theorem rasterIndex_eq_number (small : grid.columns * grid.rows < 2 ^ 32)
    (tile : { tile : Coordinate // grid.contains tile = true }) :
    tile.1.rasterIndex grid.columns = .ok ((grid.numbering tile).1 - 1) := by
  have most := (grid.numbering tile).2.2
  have number : (grid.numbering tile).1 = tile.1.y * grid.columns + tile.1.x + 1 := rfl
  exact (fitWord_eq_ok_iff _ _ _).mpr ⟨by omega, by omega⟩

theorem ofTileIndex_number (columns : 1 ≤ grid.columns)
    (number : { number : Nat // 1 ≤ number ∧ number ≤ grid.columns * grid.rows }) :
    Coordinate.ofTileIndex number grid.columns = .ok (grid.numbering.symm number) := by
  have one := number.2.1
  rw [Coordinate.ofTileIndex, if_neg (by omega), if_neg (by omega)]
  rfl

/-- The numbers of the tiles inside a grid are those from one to its count of tiles, each once, and
a tile is found from its number. They are the raster positions plus one, both grow along the raster,
and nothing that is computed leaves its word, up to a grid of as many tiles as a word can count. -/
theorem tiles_numbered (columns : 1 ≤ grid.columns) (rows : 1 ≤ grid.rows)
    (small : grid.columns * grid.rows < 2 ^ 32) :
    (∀ tile : { tile : Coordinate // grid.contains tile = true },
      tile.1.tileIndex grid.columns = .ok (grid.numbering tile) ∧
      tile.1.rasterIndex grid.columns = .ok ((grid.numbering tile).1 - 1) ∧
      tile.1.tileIndexByParts grid.columns = .ok (grid.numbering tile) ∧
      tile.1.rasterIndexByParts grid.columns = .ok ((grid.numbering tile).1 - 1)) ∧
    (∀ number : { number : Nat // 1 ≤ number ∧ number ≤ grid.columns * grid.rows },
      Coordinate.ofTileIndex number grid.columns = .ok (grid.numbering.symm number)) ∧
    (∀ left right : { tile : Coordinate // grid.contains tile = true },
      (left.1.IsBefore right.1 ↔ (grid.numbering left).1 < (grid.numbering right).1) ∧
      (left.1.IsBefore right.1 ↔ (grid.numbering left).1 - 1 < (grid.numbering right).1 - 1)) ∧
    Coordinate.tileIndex { x := grid.columns - 1, y := grid.rows - 1 } grid.columns =
      .ok (grid.columns * grid.rows) := by
  refine ⟨?_, ofTileIndex_number columns, ?_, ?_⟩
  · intro tile
    have number := tileIndex_eq_number small tile
    have raster := rasterIndex_eq_number small tile
    refine ⟨number, raster, ?_, ?_⟩
    · rw [Coordinate.tileIndexByParts_eq, number]
    · rw [Coordinate.rasterIndexByParts_eq, raster]
  · intro left right
    have grows := Coordinate.isBefore_iff (contains_iff.mp left.2).1 (contains_iff.mp right.2).1
    have first : (grid.numbering left).1 = left.1.y * grid.columns + left.1.x + 1 := rfl
    have second : (grid.numbering right).1 = right.1.y * grid.columns + right.1.x + 1 := rfl
    constructor
    · rw [grows]
      omega
    · rw [grows]
      omega
  · refine (fitWord_eq_ok_iff _ _ _).mpr ?_
    have last : grid.columns - 1 + (grid.rows - 1) * grid.columns + 1 =
        grid.columns * grid.rows := by
      rw [Nat.sub_one_mul, Nat.mul_comm grid.rows]
      have row : grid.columns ≤ grid.columns * grid.rows := Nat.le_mul_of_pos_right _ rows
      omega
    rw [last]
    exact ⟨small, rfl⟩

theorem greatest_grid_numbered :
    let grid : Grid := { columns := 65537, rows := 65535 }
    1 ≤ grid.columns ∧ 1 ≤ grid.rows ∧ grid.columns * grid.rows = 2 ^ 32 - 1 ∧
      Coordinate.tileIndexByParts { x := 65536, y := 65534 } grid.columns = .ok (2 ^ 32 - 1) ∧
      Coordinate.ofTileIndex (2 ^ 32 - 1) grid.columns = .ok { x := 65536, y := 65534 } := by
  intro grid
  have small : grid.columns * grid.rows < 2 ^ 32 := by decide
  obtain ⟨named, found, _⟩ := tiles_numbered (by decide) (by decide) small
  let tile : { tile : Coordinate // grid.contains tile = true } :=
    ⟨{ x := 65536, y := 65534 }, by decide⟩
  have number : (grid.numbering tile).1 = 2 ^ 32 - 1 := by decide
  have same : grid.numbering.symm ⟨2 ^ 32 - 1, by decide, by decide⟩ = tile := by
    rw [Equiv.symm_apply_eq]
    exact Subtype.ext number.symm
  refine ⟨by decide, by decide, by decide, ?_, ?_⟩
  · exact (named tile).2.2.1.trans (congrArg Except.ok number)
  · rw [found ⟨2 ^ 32 - 1, by decide, by decide⟩, same]

end Grid

end TiledStream
