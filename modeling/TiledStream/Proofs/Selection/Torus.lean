import TiledStream.Selection.Viewport

/-! Predictions on a grid whose opposite edges meet. They depend on the displacement of a tile from
the tile in view, and on that only up to its direction along either axis. -/

namespace TiledStream

section Ring

variable {left right length : Nat}

theorem ringDistance_comm (left right length : Nat) :
    ringDistance left right length = ringDistance right left length := by
  unfold ringDistance
  rw [Nat.add_comm (left - right)]

def ringStep (start position length : Nat) : Nat := (position + length - start) % length

theorem ringStep_cases (start : left < length) (position : right < length) :
    (left ≤ right ∧ ringStep left right length = right - left) ∨
      (right < left ∧ ringStep left right length = right + length - left) := by
  unfold ringStep
  rcases Nat.lt_or_ge right left with behind | ahead
  · right
    exact ⟨behind, Nat.mod_eq_of_lt (by omega)⟩
  · left
    refine ⟨ahead, ?_⟩
    rw [Nat.mod_eq_sub_mod (by omega), Nat.mod_eq_of_lt (by omega)]
    omega

theorem ringDistance_eq_step (start : left < length) (position : right < length) :
    ringDistance right left length =
      min (ringStep left right length) (length - ringStep left right length) := by
  simp only [ringDistance]
  rcases ringStep_cases start position with ⟨ahead, step⟩ | ⟨behind, step⟩
  · rw [step]
    omega
  · rw [step]
    omega

theorem rotate_cases (inside : left < length) (turn : Nat) :
    ((left + turn) % length = left + turn % length ∧ left + turn % length < length) ∨
      (left + turn) % length + length = left + turn % length := by
  have turned : turn % length < length := Nat.mod_lt turn (by omega)
  rw [Nat.add_mod, Nat.mod_eq_of_lt inside]
  rcases Nat.lt_or_ge (left + turn % length) length with short | long
  · left
    exact ⟨Nat.mod_eq_of_lt short, short⟩
  · right
    rw [Nat.mod_eq_sub_mod long, Nat.mod_eq_of_lt (by omega)]
    omega

theorem ringStep_rotate (start : left < length) (position : right < length) (turn : Nat) :
    ringStep ((left + turn) % length) ((right + turn) % length) length =
      ringStep left right length := by
  have positive : 0 < length := by omega
  have before := ringStep_cases start position
  have after := ringStep_cases (Nat.mod_lt (left + turn) positive)
    (Nat.mod_lt (right + turn) positive)
  have turnedLeft := rotate_cases start turn
  have turnedRight := rotate_cases position turn
  omega

theorem ringDistance_mirror (start : left < length) (position : right < length) :
    ringDistance (length - 1 - left) (length - 1 - right) length =
      ringDistance left right length := by
  simp only [ringDistance]
  omega

end Ring

namespace Coordinate

theorem ofPacked_packed {tile : Coordinate} (column : tile.x < 2 ^ 32) (row : tile.y < 2 ^ 32) :
    ofPacked tile.packed = tile := by
  have word : tile.packed.toNat = tile.x * 2 ^ 32 + tile.y := by
    have high : tile.x.toUInt64.toNat = tile.x := Nat.mod_eq_of_lt (by omega)
    have low : tile.y.toUInt64.toNat = tile.y := Nat.mod_eq_of_lt (by omega)
    have shifted : (tile.x.toUInt64 <<< 32).toNat = tile.x <<< 32 := by
      rw [UInt64.toNat_shiftLeft, high]
      apply Nat.mod_eq_of_lt
      change tile.x <<< 32 < 2 ^ 64
      rw [Nat.shiftLeft_eq]
      omega
    rw [packed, UInt64.toNat_or, shifted, low, ← Nat.shiftLeft_add_eq_or_of_lt row,
      Nat.shiftLeft_eq]
  have upper : (tile.packed >>> 32).toUInt32.toNat = tile.x := by
    rw [UInt64.toNat_toUInt32, UInt64.toNat_shiftRight, word]
    change (tile.x * 2 ^ 32 + tile.y) >>> 32 % 2 ^ 32 = tile.x
    rw [Nat.shiftRight_eq_div_pow]
    omega
  have lower : tile.packed.toUInt32.toNat = tile.y := by
    rw [UInt64.toNat_toUInt32, word]
    omega
  unfold ofPacked
  rw [upper, lower]

end Coordinate

namespace Grid

variable (grid : Grid)

def wrapped (tile : Coordinate) : Coordinate :=
  { x := tile.x % grid.columns, y := tile.y % grid.rows }

def displacement (view tile : Coordinate) : Coordinate :=
  { x := ringStep view.x tile.x grid.columns, y := ringStep view.y tile.y grid.rows }

def rotated (across down : Nat) (tile : Coordinate) : Coordinate :=
  grid.wrapped { x := tile.x + across, y := tile.y + down }

def mirroredAcross (tile : Coordinate) : Coordinate :=
  { tile with x := grid.columns - 1 - tile.x }

def mirroredDown (tile : Coordinate) : Coordinate :=
  { tile with y := grid.rows - 1 - tile.y }

variable {grid} {view tile : Coordinate}

theorem contains_bounds (inside : grid.contains tile = true) :
    tile.x < grid.columns ∧ tile.y < grid.rows := by
  simpa [contains] using inside

theorem contains_wrapped (columns : 1 ≤ grid.columns) (rows : 1 ≤ grid.rows)
    (tile : Coordinate) : grid.contains (grid.wrapped tile) = true := by
  have column : tile.x % grid.columns < grid.columns := Nat.mod_lt _ columns
  have row : tile.y % grid.rows < grid.rows := Nat.mod_lt _ rows
  simp [contains, wrapped, column, row]

theorem displacement_rotated (viewInside : grid.contains view = true)
    (inside : grid.contains tile = true) (across down : Nat) :
    grid.displacement (grid.rotated across down view) (grid.rotated across down tile) =
      grid.displacement view tile := by
  have viewBounds := contains_bounds viewInside
  have bounds := contains_bounds inside
  unfold displacement rotated wrapped
  dsimp only
  rw [ringStep_rotate viewBounds.1 bounds.1, ringStep_rotate viewBounds.2 bounds.2]

end Grid

namespace Viewport

variable {K : Type}

def looked (grid : Grid) (factor : K) (looks : List Coordinate) : Viewport K :=
  looks.foldl lookAt (start grid factor)

theorem looked_keeps (grid : Grid) (factor : K) (looks : List Coordinate) :
    (looked grid factor looks).grid = grid ∧ (looked grid factor looks).factor = factor := by
  suffices keeps : ∀ viewport : Viewport K,
      (looks.foldl lookAt viewport).grid = viewport.grid ∧
        (looks.foldl lookAt viewport).factor = viewport.factor from keeps (start grid factor)
  induction looks with
  | nil =>
      intro viewport
      exact ⟨rfl, rfl⟩
  | cons look looks ih =>
      intro viewport
      exact ih (viewport.lookAt look)

section View

variable {grid : Grid} (columns : 1 ≤ grid.columns) (rows : 1 ≤ grid.rows)
  (columnWord : grid.columns < 2 ^ 32) (rowWord : grid.rows < 2 ^ 32)

include columns rows columnWord rowWord in
theorem view_lookAt {viewport : Viewport K} (same : viewport.grid = grid) (tile : Coordinate) :
    (viewport.lookAt tile).view = grid.wrapped tile := by
  have column : tile.x % grid.columns < grid.columns := Nat.mod_lt _ columns
  have row : tile.y % grid.rows < grid.rows := Nat.mod_lt _ rows
  unfold lookAt view
  rw [same, Nat.max_eq_left columns, Nat.max_eq_left rows]
  apply Coordinate.ofPacked_packed
  · exact Nat.lt_trans column columnWord
  · exact Nat.lt_trans row rowWord

include columns rows columnWord rowWord in
theorem view_looked (factor : K) (looks : List Coordinate) :
    (looked grid factor looks).view = grid.wrapped (looks.getLast?.getD { x := 0, y := 0 }) := by
  rcases List.eq_nil_or_concat looks with rfl | ⟨earlier, last, rfl⟩
  · have first : grid.wrapped { x := 0, y := 0 } = { x := 0, y := 0 } := by
      simp [Grid.wrapped]
    rw [List.getLast?_nil, Option.getD_none, first]
    change Coordinate.ofPacked 0 = _
    decide
  · rw [List.concat_eq_append, looked, List.foldl_append, List.getLast?_concat, Option.getD_some]
    exact view_lookAt columns rows columnWord rowWord (looked_keeps grid factor earlier).1 last

include columns rows columnWord rowWord in
theorem contains_view (factor : K) (looks : List Coordinate) :
    grid.contains (looked grid factor looks).view = true := by
  rw [view_looked columns rows columnWord rowWord]
  exact Grid.contains_wrapped columns rows _

end View

variable [Quality K]

/-- Whether two viewports predict the same of a tile each, and so choose the same for it. -/
def Alike (one : Viewport K) (tile : Coordinate) (two : Viewport K) (other : Coordinate) : Prop :=
  two.predict other = one.predict tile ∧
    ∀ earlier count, two.selector other earlier count = one.selector tile earlier count

section Distances

variable {one two : Viewport K} {grid : Grid} {tile other : Coordinate}

/-- Distances along both axes are all that a prediction is made of. -/
theorem alike_of_distances (columns : 1 ≤ grid.columns) (rows : 1 ≤ grid.rows)
    (oneGrid : one.grid = grid) (twoGrid : two.grid = grid) (factor : two.factor = one.factor)
    (across : ringDistance other.x two.view.x grid.columns =
      ringDistance tile.x one.view.x grid.columns)
    (down : ringDistance other.y two.view.y grid.rows =
      ringDistance tile.y one.view.y grid.rows) :
    Alike one tile two other := by
  have predicted : two.predict other = one.predict tile := by
    unfold predict ringShare
    rw [oneGrid, twoGrid, factor, Nat.max_eq_left columns, Nat.max_eq_left rows, across, down]
  refine ⟨predicted, ?_⟩
  intro earlier count
  unfold selector Selector.predictive
  rw [predicted]

end Distances

/-- The tile in view is the last one looked at, by its remainders, and at first the first tile. A
prediction depends on nothing but the displacement of its tile from the one in view: it is the same,
and the choice with it, when both tiles are rotated, exchanged, or mirrored along either axis. -/
theorem prediction_by_displacement {grid : Grid} (columns : 1 ≤ grid.columns)
    (rows : 1 ≤ grid.rows) (columnWord : grid.columns < 2 ^ 32) (rowWord : grid.rows < 2 ^ 32)
    (factor : K) (looks others : List Coordinate) {tile : Coordinate}
    (inside : grid.contains tile = true) :
    let here := looked grid factor looks
    let there := looked grid factor others
    here.view = grid.wrapped (looks.getLast?.getD { x := 0, y := 0 }) ∧
    (∀ other, grid.contains other = true →
      grid.displacement there.view other = grid.displacement here.view tile →
      Alike here tile there other) ∧
    (∀ across down, there.view = grid.rotated across down here.view →
      Alike here tile there (grid.rotated across down tile)) ∧
    (there.view = tile → Alike here tile there here.view) ∧
    (there.view = grid.mirroredAcross here.view →
      Alike here tile there (grid.mirroredAcross tile)) ∧
    (there.view = grid.mirroredDown here.view →
      Alike here tile there (grid.mirroredDown tile)) := by
  intro here there
  obtain ⟨hereGrid, hereFactor⟩ := looked_keeps grid factor looks
  obtain ⟨thereGrid, thereFactor⟩ := looked_keeps grid factor others
  have bounds := Grid.contains_bounds inside
  have hereInside : grid.contains here.view = true :=
    contains_view columns rows columnWord rowWord factor looks
  have hereBounds := Grid.contains_bounds hereInside
  have thereInside : grid.contains there.view = true :=
    contains_view columns rows columnWord rowWord factor others
  have thereBounds := Grid.contains_bounds thereInside
  have sameFactor := thereFactor.trans hereFactor.symm
  have displaced (other : Coordinate) (otherInside : grid.contains other = true)
      (same : grid.displacement there.view other = grid.displacement here.view tile) :
      Alike here tile there other := by
    have otherBounds := Grid.contains_bounds otherInside
    obtain ⟨across, down⟩ := Coordinate.mk.inj same
    apply alike_of_distances columns rows hereGrid thereGrid sameFactor
    · rw [ringDistance_eq_step thereBounds.1 otherBounds.1, across,
        ringDistance_eq_step hereBounds.1 bounds.1]
    · rw [ringDistance_eq_step thereBounds.2 otherBounds.2, down,
        ringDistance_eq_step hereBounds.2 bounds.2]
  refine ⟨view_looked columns rows columnWord rowWord factor looks, displaced, ?_, ?_, ?_, ?_⟩
  · intro across down moved
    apply displaced
    · exact Grid.contains_wrapped columns rows _
    · rw [moved]
      exact Grid.displacement_rotated hereInside inside across down
  · intro moved
    apply alike_of_distances columns rows hereGrid thereGrid sameFactor
    · rw [moved]
      exact ringDistance_comm here.view.x tile.x grid.columns
    · rw [moved]
      exact ringDistance_comm here.view.y tile.y grid.rows
  · intro moved
    apply alike_of_distances columns rows hereGrid thereGrid sameFactor
    · rw [moved]
      exact ringDistance_mirror bounds.1 hereBounds.1
    · rw [moved]
      rfl
  · intro moved
    apply alike_of_distances columns rows hereGrid thereGrid sameFactor
    · rw [moved]
      rfl
    · rw [moved]
      exact ringDistance_mirror bounds.2 hereBounds.2

theorem rotated_across_seam :
    let grid : Grid := { columns := 4, rows := 2 }
    let here : Viewport Float := looked grid 0.5 [{ x := 6, y := 3 }, { x := 9, y := 0 }]
    let there := looked grid 0.5 [{ x := 4, y := 1 }]
    here.view = { x := 1, y := 0 } ∧ there.view = { x := 0, y := 1 } ∧
      there.predict { x := 2, y := 0 } = here.predict { x := 3, y := 1 } ∧
      ∀ count, there.selector { x := 2, y := 0 } 0 count =
        here.selector { x := 3, y := 1 } 0 count := by
  intro grid here there
  obtain ⟨hereView, _, rotated, _⟩ := prediction_by_displacement
    (show 1 ≤ grid.columns by decide) (by decide) (by decide) (by decide) (0.5 : Float)
    [{ x := 6, y := 3 }, { x := 9, y := 0 }] [{ x := 4, y := 1 }]
    (show grid.contains { x := 3, y := 1 } = true by decide)
  have first : here.view = { x := 1, y := 0 } := hereView.trans (by decide)
  have second : there.view = { x := 0, y := 1 } :=
    (view_looked (by decide) (by decide) (by decide) (by decide) 0.5 _).trans (by decide)
  have moved : there.view = grid.rotated 3 1 here.view := by
    rw [first, second]
    decide
  have target : grid.rotated 3 1 { x := 3, y := 1 } = { x := 2, y := 0 } := by decide
  have alike : Alike here { x := 3, y := 1 } there { x := 2, y := 0 } := by
    rw [← target]
    exact rotated 3 1 moved
  exact ⟨first, second, alike.1, fun count => alike.2 0 count⟩

end Viewport

end TiledStream
