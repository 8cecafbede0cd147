import TiledStream.Proofs.Manifest.Placement
import TiledStream.Proofs.Manifest.RoundTrip

/-! The video sets of a manifest that was read cover its grid: there is one for every tile, and they
stand in raster order. -/

namespace TiledStream.Manifest

open Presentation (position_lt rasterTile rasterTile_position tiles tiles_eq mem_tiles)

variable {manifest : Manifest}

theorem position_of_rasterIndex {tile : Coordinate} {columns raster : Nat}
    (indexed : tile.rasterIndex columns = .ok raster) : tile.y * columns + tile.x = raster :=
  ((fitWord_eq_ok_iff _ _ _).mp indexed).2.symm

theorem contains_iff {grid : Grid} {tile : Coordinate} :
    grid.contains tile = true ↔ tile.x < grid.columns ∧ tile.y < grid.rows := by
  simp [Grid.contains]

theorem Placed.tile_eq (placed : manifest.Placed) {raster : Nat} {video : VideoSet}
    (found : manifest.videoSets[raster]? = some video) :
    video.tile = rasterTile manifest.grid.columns raster := by
  obtain ⟨inside, indexed⟩ := placed.inside raster video found
  obtain ⟨column, _⟩ := contains_iff.mp inside
  rw [← position_of_rasterIndex indexed, rasterTile_position video.tile.y column]

theorem Placed.coordinates_eq (placed : manifest.Placed) :
    manifest.coordinates = tiles manifest.grid := by
  have raster : tiles manifest.grid = _ := tiles_eq placed.columns manifest.grid.rows
  have size : manifest.videoSets.length = manifest.grid.columns * manifest.grid.rows := placed.size
  rw [raster, coordinates]
  apply List.ext_getElem
  · rw [List.length_map, List.length_map, List.length_range, size]
  · intro position before _
    rw [List.length_map] at before
    rw [List.getElem_map, List.getElem_map, List.getElem_range]
    exact placed.tile_eq (List.getElem?_eq_getElem before)

theorem nodup_tiles (grid : Grid) (positive : 0 < grid.columns) : (tiles grid).Nodup := by
  have raster : tiles grid = _ := tiles_eq positive grid.rows
  rw [raster, List.Nodup, List.pairwise_map]
  refine List.nodup_range.imp ?_
  intro left right different same
  -- Quotient and remainder by the number of columns tell the position.
  have column : left % grid.columns = right % grid.columns := congrArg Coordinate.x same
  have row : left / grid.columns = right / grid.columns := congrArg Coordinate.y same
  apply different
  rw [← Nat.div_add_mod left grid.columns, ← Nat.div_add_mod right grid.columns, column, row]

theorem Placed.videoSet_found (placed : manifest.Placed) {x y : Nat}
    (column : x < manifest.grid.columns) (row : y < manifest.grid.rows) :
    ∃ video, manifest.videoSet { x, y } = .ok video ∧ video.tile = { x, y } ∧
      manifest.videoSets[y * manifest.grid.columns + x]? = some video := by
  have bound : y * manifest.grid.columns + x < manifest.videoSets.length := by
    rw [placed.size]
    exact position_lt column row
  have found := List.getElem?_eq_getElem bound
  have there := placed.tile_eq found
  rw [rasterTile_position y column] at there
  refine ⟨_, ?_, there, found⟩
  rw [← there]
  exact placed.videoSet_tile found

/-- Whatever document is read, its grid has a tile, its video sets stand for the tiles one by one in
raster order, and every tile inside the grid is found. -/
theorem parsed_sets_fill_grid {document : String}
    (parsed : Manifest.parse document = .ok manifest) :
    1 ≤ manifest.grid.columns ∧ 1 ≤ manifest.grid.rows ∧
    manifest.grid.columns * manifest.grid.rows < 2 ^ 32 ∧
    manifest.videoSets.length = manifest.grid.columns * manifest.grid.rows ∧
    (∀ (raster : Nat) (video : VideoSet), manifest.videoSets[raster]? = some video →
      video.tile.x < manifest.grid.columns ∧ video.tile.y < manifest.grid.rows ∧
      video.tile.y * manifest.grid.columns + video.tile.x = raster ∧
      1 ≤ video.representations.length) ∧
    manifest.coordinates = tiles manifest.grid ∧ manifest.coordinates.Nodup ∧
    (∀ tile, tile ∈ manifest.coordinates ↔
      tile.x < manifest.grid.columns ∧ tile.y < manifest.grid.rows) ∧
    ∀ x y, x < manifest.grid.columns → y < manifest.grid.rows →
      ∃ video, manifest.videoSet { x, y } = .ok video ∧ video.tile = { x, y } ∧
        manifest.videoSets[y * manifest.grid.columns + x]? = some video := by
  have placed := parse_placed parsed
  refine ⟨placed.columns, placed.rows, placed.small, placed.size, ?_, placed.coordinates_eq, ?_, ?_,
    ?_⟩
  · intro raster video found
    obtain ⟨inside, indexed⟩ := placed.inside raster video found
    obtain ⟨column, row⟩ := contains_iff.mp inside
    refine ⟨column, row, position_of_rasterIndex indexed, ?_⟩
    exact List.length_pos_iff.mpr (placed.represented video (List.mem_of_getElem? found))
  · rw [placed.coordinates_eq]
    exact nodup_tiles manifest.grid placed.columns
  · intro tile
    rw [placed.coordinates_eq]
    exact mem_tiles
  · intro x y column row
    exact placed.videoSet_found column row

theorem gallery_sets_fill_grid :
    ∃ document manifest, Manifest.parse document = .ok manifest ∧
      manifest.videoSets.length = 6 ∧
      manifest.coordinates = [{ x := 0, y := 0 }, { x := 1, y := 0 }, { x := 2, y := 0 },
        { x := 0, y := 1 }, { x := 1, y := 1 }, { x := 2, y := 1 }] ∧
      ∃ video, manifest.videoSet { x := 2, y := 1 } = .ok video ∧
        video.tile = { x := 2, y := 1 } := by
  obtain ⟨document, _, parsed⟩ := Presentation.parse_document Presentation.gallery_fits
  obtain ⟨_, _, _, size, _, raster, _, _, found⟩ := parsed_sets_fill_grid parsed
  obtain ⟨video, at_tile, tile, _⟩ := found 2 1 (by decide) (by decide)
  exact ⟨document, _, parsed, size, raster, video, at_tile, tile⟩

end TiledStream.Manifest
