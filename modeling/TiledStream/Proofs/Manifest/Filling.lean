import Mathlib.Data.List.Nodup
import TiledStream.Proofs.Manifest.Safety

/-! Which video sets fill a grid: those that can be read and stand for its tiles one by one. The order
in which they are declared makes no difference. -/

namespace TiledStream

open Presentation (tiles tiles_eq mem_tiles position_lt rasterTile_position takeSlots_map)
open Manifest (contains_iff nodup_tiles)

theorem nodup_tiles_all (grid : Grid) : (tiles grid).Nodup := by
  by_cases columns : grid.columns = 0
  · have none : tiles grid = [] := by
      simp [tiles, columns]
    rw [none]
    exact .nil
  · exact nodup_tiles grid (Nat.pos_of_ne_zero columns)

theorem length_tiles (grid : Grid) : (tiles grid).length = grid.columns * grid.rows := by
  simp [tiles, List.length_flatMap, Nat.mul_comm]

theorem getElem?_tiles {grid : Grid} {tile : Coordinate} (inside : grid.contains tile = true) :
    (tiles grid)[tile.y * grid.columns + tile.x]? = some tile := by
  obtain ⟨column, row⟩ := contains_iff.mp inside
  have raster : tiles grid = _ := tiles_eq (Nat.zero_lt_of_lt column) grid.rows
  rw [raster, List.getElem?_map, List.getElem?_range (position_lt column row), Option.map_some,
    rasterTile_position tile.y column]

section Filling

variable {grid : Grid} {sets : List DeclaredSet} {built : List VideoSet} {video : VideoSet}

def slotsOf (grid : Grid) (built : List VideoSet) : List (Option VideoSet) :=
  (tiles grid).map fun tile => built.find? (·.tile = tile)

theorem find?_tile (different : (built.map (·.tile)).Nodup) (member : video ∈ built) :
    built.find? (·.tile = video.tile) = some video := by
  induction built with
  | nil => simp at member
  | cons first built ih =>
      rw [List.map_cons, List.nodup_cons] at different
      rw [List.find?_cons]
      by_cases same : first.tile = video.tile
      · rw [decide_eq_true same]
        rcases List.mem_cons.mp member with rfl | later
        · rfl
        · exact absurd (same ▸ List.mem_map_of_mem later) different.1
      · rw [decide_eq_false same]
        refine ih different.2 ((List.mem_cons.mp member).resolve_left ?_)
        rintro rfl
        exact same rfl

theorem find?_absent {tile : Coordinate} (absent : tile ∉ built.map (·.tile)) :
    built.find? (·.tile = tile) = none := by
  rw [List.find?_eq_none]
  intro video member same
  exact absent (of_decide_eq_true same ▸ List.mem_map_of_mem member)

theorem slotsOf_place (inside : grid.contains video.tile = true)
    (free : video.tile ∉ built.map (·.tile)) :
    (slotsOf grid built).set (video.tile.y * grid.columns + video.tile.x) (some video) =
      slotsOf grid (built ++ [video]) := by
  have here := getElem?_tiles inside
  apply List.ext_getElem?
  intro index
  rw [List.getElem?_set]
  by_cases same : video.tile.y * grid.columns + video.tile.x = index
  · subst same
    rw [if_pos rfl, slotsOf, slotsOf, List.length_map, List.getElem?_map, here,
      if_pos (List.getElem?_eq_some_iff.mp here).1, Option.map_some, List.find?_append,
      find?_absent free]
    simp
  · rw [if_neg same, slotsOf, slotsOf, List.getElem?_map, List.getElem?_map]
    cases found : (tiles grid)[index]? with
    | none => rfl
    | some tile =>
        have other : video.tile ≠ tile := by
          rintro rfl
          have bound := (List.getElem?_eq_some_iff.mp found).1
          exact same
            ((List.getElem?_inj bound (nodup_tiles_all grid)).mp (found.trans here.symm)).symm
        simp [List.find?_append, other]

variable (small : grid.columns * grid.rows < 2 ^ 32)

include small in
theorem placeSet_eq_ok_iff {declared : DeclaredSet} {next : List (Option VideoSet)}
    (different : (built.map (·.tile)).Nodup) :
    placeSet grid (slotsOf grid built) declared = .ok next ↔
      ∃ video, readVideoSet grid declared = .ok video ∧ video.tile ∉ built.map (·.tile) ∧
        next = slotsOf grid (built ++ [video]) := by
  unfold placeSet
  cases read : readVideoSet grid declared with
  | error error => simp [orManifestError, bind, Except.bind]
  | ok video =>
      have inside := (VideoSet.madeOf read).inside
      obtain ⟨index, indexed, _⟩ := rasterIndex_of_contains small inside
      have place := Manifest.position_of_rasterIndex indexed
      have slot : (slotsOf grid built)[index]? = some (built.find? (·.tile = video.tile)) := by
        rw [slotsOf, List.getElem?_map, ← place, getElem?_tiles inside, Option.map_some]
      simp only [orManifestError, orFault, bind, Except.bind, indexed, slot]
      by_cases taken : video.tile ∈ built.map (·.tile)
      · obtain ⟨other, member, same⟩ := List.mem_map.mp taken
        rw [← same, find?_tile different member]
        constructor
        · intro placed
          simp at placed
        · rintro ⟨_, again, free, _⟩
          obtain rfl := Except.ok.inj again
          exact absurd taken free
      · rw [find?_absent taken, ← place, slotsOf_place inside taken]
        constructor
        · intro placed
          exact ⟨video, rfl, taken, (Except.ok.inj placed).symm⟩
        · rintro ⟨_, again, _, rfl⟩
          obtain rfl := Except.ok.inj again
          rfl

include small in
theorem placed_iff {slots : List (Option VideoSet)} (different : (built.map (·.tile)).Nodup) :
    sets.foldlM (placeSet grid) (slotsOf grid built) = .ok slots ↔
      ∃ more, sets.mapM (readVideoSet grid) = .ok more ∧
        ((built ++ more).map (·.tile)).Nodup ∧ slots = slotsOf grid (built ++ more) := by
  induction sets generalizing built with
  | nil =>
      constructor
      · intro folded
        refine ⟨[], rfl, ?_, ?_⟩
        · rwa [List.append_nil]
        · rw [List.append_nil]
          exact (Except.ok.inj folded).symm
      · rintro ⟨more, mapped, _, rfl⟩
        obtain rfl : [] = more := Except.ok.inj mapped
        rw [List.append_nil]
        rfl
  | cons declared sets ih =>
      rw [List.foldlM_cons, List.mapM_cons]
      constructor
      · intro folded
        obtain ⟨next, placed, folded⟩ := bind_eq_ok folded
        obtain ⟨video, read, free, rfl⟩ := (placeSet_eq_ok_iff small different).mp placed
        have still : ((built ++ [video]).map (·.tile)).Nodup := by
          rw [List.map_append, List.nodup_append]
          simp_all
        obtain ⟨more, mapped, all, rfl⟩ := (ih still).mp folded
        refine ⟨video :: more, ?_, ?_, ?_⟩
        · rw [read, mapped]
          rfl
        · rwa [List.append_assoc] at all
        · rw [List.append_assoc]
          rfl
      · rintro ⟨all, mapped, nodup, rfl⟩
        obtain ⟨video, read, mapped⟩ := bind_eq_ok mapped
        obtain ⟨more, rest, mapped⟩ := bind_eq_ok mapped
        obtain rfl : video :: more = all := Except.ok.inj mapped
        have regroup : built ++ video :: more = built ++ [video] ++ more := by simp
        rw [regroup] at nodup
        have still : ((built ++ [video]).map (·.tile)).Nodup := by
          rw [List.map_append, List.nodup_append] at nodup
          exact nodup.1
        have free : video.tile ∉ built.map (·.tile) := by
          rw [List.map_append, List.nodup_append] at still
          intro member
          exact still.2.2 _ member _ (by simp) rfl
        rw [(placeSet_eq_ok_iff small different).mpr ⟨video, read, free, rfl⟩]
        exact (ih still).mpr ⟨more, rest, nodup, congrArg (slotsOf grid) regroup⟩

theorem inside_of_mapM (mapped : sets.mapM (readVideoSet grid) = .ok built) :
    ∀ video ∈ built, grid.contains video.tile := by
  intro video member
  obtain ⟨index, found⟩ := List.mem_iff_getElem?.mp member
  obtain ⟨declared, _, read⟩ := (mapM_eq_ok mapped).2 index video found
  exact (VideoSet.madeOf read).inside

/-- Sets fill all slots exactly if their tiles are those of the grid, each once. -/
theorem filled_iff {videoSets : List VideoSet} (inside : ∀ video ∈ built, grid.contains video.tile) :
    (built.map (·.tile)).Nodup ∧ slotsOf grid built = videoSets.map some ↔
      (built.map (·.tile)).Perm (tiles grid) ∧ videoSets.Perm built ∧
        videoSets.map (·.tile) = tiles grid := by
  constructor
  · rintro ⟨different, filled⟩
    have found (video : VideoSet) (member : video ∈ videoSets) : video ∈ built := by
      have slot : some video ∈ slotsOf grid built := filled ▸ List.mem_map_of_mem member
      obtain ⟨tile, _, there⟩ := List.mem_map.mp slot
      exact List.mem_of_find?_eq_some there
    have raster : videoSets.map (·.tile) = tiles grid := by
      have sizes := congrArg List.length filled
      rw [slotsOf, List.length_map, List.length_map] at sizes
      apply List.ext_getElem
      · rw [List.length_map, sizes]
      · intro index before bound
        have slot : (slotsOf grid built)[index]? = (videoSets.map some)[index]? := by rw [filled]
        rw [List.length_map] at before
        rw [slotsOf, List.getElem?_map, List.getElem?_map, List.getElem?_eq_getElem bound,
          List.getElem?_eq_getElem before, Option.map_some, Option.map_some,
          Option.some.injEq] at slot
        rw [List.getElem_map]
        simpa using List.find?_some slot
    have nodup : videoSets.Nodup := List.Nodup.of_map _ (raster ▸ nodup_tiles_all grid)
    have same : videoSets.Perm built := by
      rw [List.perm_ext_iff_of_nodup nodup (List.Nodup.of_map _ different)]
      refine fun video => ⟨found video, fun member => ?_⟩
      have slot : some video ∈ slotsOf grid built := by
        rw [← find?_tile different member]
        exact List.mem_map_of_mem (mem_tiles.mpr (contains_iff.mp (inside video member)))
      rw [filled] at slot
      simpa using slot
    exact ⟨raster ▸ (same.map _).symm, same, raster⟩
  · rintro ⟨covers, same, raster⟩
    have different : (built.map (·.tile)).Nodup := covers.nodup_iff.mpr (nodup_tiles_all grid)
    refine ⟨different, ?_⟩
    rw [slotsOf, ← raster, List.map_map]
    exact List.map_congr_left fun video member => find?_tile different (same.subset member)

include small in
/-- Sets are laid out on a grid exactly if all of them can be read and their tiles are those of the
grid, each once; they then stand in raster order. -/
theorem placeSets_eq_ok_iff {videoSets : List VideoSet} :
    placeSets grid sets = .ok videoSets ↔
      ∃ built, sets.mapM (readVideoSet grid) = .ok built ∧
        (built.map (·.tile)).Perm (tiles grid) ∧ videoSets.Perm built ∧
        videoSets.map (·.tile) = tiles grid := by
  have start : slotsOf grid [] = List.replicate (grid.columns * grid.rows) none := by
    rw [← length_tiles, ← List.map_const']
    rfl
  have none : (([] : List VideoSet).map (·.tile)).Nodup := .nil
  constructor
  · intro placed
    unfold placeSets at placed
    obtain ⟨tiles, counted, placed⟩ := bind_eq_ok placed
    obtain ⟨slots, folded, taken⟩ := bind_eq_ok placed
    obtain ⟨_, rfl⟩ := (fitWord_eq_ok_iff _ _ _).mp (orFault_eq_ok counted)
    rw [← start] at folded
    obtain ⟨built, mapped, different, rfl⟩ := (placed_iff small none).mp folded
    exact ⟨built, mapped, (filled_iff (inside_of_mapM mapped)).mp ⟨different, takeSlots_eq_ok taken⟩⟩
  · rintro ⟨built, mapped, fills⟩
    obtain ⟨different, filled⟩ := (filled_iff (inside_of_mapM mapped)).mpr fills
    have counted : fitWord 32 (grid.columns * grid.rows) = .ok (grid.columns * grid.rows) :=
      (fitWord_eq_ok_iff _ _ _).mpr ⟨small, rfl⟩
    have folded := (placed_iff small none).mpr ⟨built, mapped, different, rfl⟩
    rw [start] at folded
    rw [placeSets, counted]
    simp only [orFault, bind, Except.bind, folded, List.nil_append, filled, takeSlots_map]

theorem exists_map_some {Item : Type} {slots : List (Option Item)} (full : ∀ slot ∈ slots, slot ≠ none) :
    ∃ items : List Item, slots = items.map some := by
  induction slots with
  | nil => exact ⟨[], rfl⟩
  | cons slot slots ih =>
      obtain ⟨items, rfl⟩ := ih fun later member => full later (.tail _ member)
      obtain ⟨item, rfl⟩ := Option.ne_none_iff_exists'.mp (full slot (.head _))
      exact ⟨item :: items, rfl⟩

include small in
theorem exists_placeSets_iff :
    (∃ videoSets, placeSets grid sets = .ok videoSets) ↔
      ∃ built, sets.mapM (readVideoSet grid) = .ok built ∧
        (built.map (·.tile)).Perm (tiles grid) := by
  constructor
  · rintro ⟨videoSets, placed⟩
    obtain ⟨built, mapped, covers, _⟩ := (placeSets_eq_ok_iff small).mp placed
    exact ⟨built, mapped, covers⟩
  · rintro ⟨built, mapped, covers⟩
    have different : (built.map (·.tile)).Nodup := covers.nodup_iff.mpr (nodup_tiles_all grid)
    have full : ∀ slot ∈ slotsOf grid built, slot ≠ none := by
      intro slot member
      obtain ⟨tile, listed, rfl⟩ := List.mem_map.mp member
      obtain ⟨video, present, rfl⟩ := List.mem_map.mp (covers.mem_iff.mpr listed)
      simp [find?_tile different present]
    obtain ⟨videoSets, filled⟩ := exists_map_some full
    have fills := (filled_iff (inside_of_mapM mapped)).mp ⟨different, filled⟩
    exact ⟨videoSets, (placeSets_eq_ok_iff small).mpr ⟨built, mapped, fills⟩⟩

include small in
theorem placeSets_perm {others : List DeclaredSet} {videoSets : List VideoSet}
    (same : sets.Perm others) (placed : placeSets grid sets = .ok videoSets) :
    placeSets grid others = .ok videoSets := by
  obtain ⟨built, mapped, covers, filled, raster⟩ := (placeSets_eq_ok_iff small).mp placed
  obtain ⟨other, read, perm⟩ := mapM_perm same mapped
  exact (placeSets_eq_ok_iff small).mpr
    ⟨other, read, (perm.map _).symm.trans covers, filled.trans perm, raster⟩

end Filling

end TiledStream
