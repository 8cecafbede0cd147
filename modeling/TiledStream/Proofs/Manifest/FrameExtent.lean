import Mathlib.Algebra.BigOperators.Ring.List
import TiledStream.Proofs.Manifest.Raster

/-! The extent of a frame is computed without looking at places: all widths are summed and divided
by the number of rows, all heights by the number of columns. On a grid whose tiles line up that
gives the sum of the columns and the sum of the rows, as far as a word of 32 bits holds it. -/

namespace TiledStream

theorem Extent.eq_iff {extent other : Extent} :
    extent = other ↔ extent.width = other.width ∧ extent.height = other.height := by
  cases extent
  cases other
  rw [Extent.mk.injEq]

theorem readFrameExtent_eq_ok {grid : Grid} {sets : List VideoSet} {extent : Extent}
    (read : readFrameExtent grid sets = .ok extent) :
    extent = {
      width := (sets.map (·.extent.width)).sum / grid.rows % 2 ^ 32
      height := (sets.map (·.extent.height)).sum / grid.columns % 2 ^ 32 } := by
  unfold readFrameExtent at read
  obtain ⟨width, widths, read⟩ := bind_eq_ok read
  obtain ⟨height, heights, read⟩ := bind_eq_ok read
  obtain ⟨_, rfl⟩ := (fitWord_eq_ok_iff _ _ _).mp widths
  obtain ⟨_, rfl⟩ := (fitWord_eq_ok_iff _ _ _).mp heights
  split at read
  · simp at read
  · exact (Except.ok.inj read).symm

namespace Manifest

open Presentation (tiles)

variable {manifest : Manifest}

def meanExtent (manifest : Manifest) : Extent where
  width := (manifest.videoSets.map (·.extent.width)).sum / manifest.grid.rows
  height := (manifest.videoSets.map (·.extent.height)).sum / manifest.grid.columns

/-- Tiles of a column share its width, and tiles of a row share its height. -/
def Aligned (manifest : Manifest) (columnWidth rowHeight : Nat → Nat) : Prop :=
  ∀ video ∈ manifest.videoSets,
    video.extent = { width := columnWidth video.tile.x, height := rowHeight video.tile.y }

section Sums

variable (grid : Grid)

theorem sum_by_rows (amount : Coordinate → Nat) :
    ((tiles grid).map amount).sum =
      ((List.range grid.rows).map fun y =>
        ((List.range grid.columns).map fun x => amount { x, y }).sum).sum := by
  obtain ⟨columns, rows⟩ := grid
  induction rows with
  | zero => rfl
  | succ rows ih =>
      simp only [tiles] at ih ⊢
      rw [List.range_succ, List.flatMap_append, List.map_append, List.sum_append, ih,
        List.map_append, List.sum_append]
      simp [Function.comp_def]

theorem sum_columns (columnWidth : Nat → Nat) :
    ((tiles grid).map fun tile => columnWidth tile.x).sum =
      ((List.range grid.columns).map columnWidth).sum * grid.rows := by
  rw [sum_by_rows]
  dsimp only
  rw [List.map_const', List.sum_replicate_nat, List.length_range, Nat.mul_comm]

theorem sum_rows (rowHeight : Nat → Nat) :
    ((tiles grid).map fun tile => rowHeight tile.y).sum =
      ((List.range grid.rows).map rowHeight).sum * grid.columns := by
  have row (y : Nat) : ((List.range grid.columns).map fun _ => rowHeight y).sum =
      rowHeight y * grid.columns := by
    rw [List.map_const', List.sum_replicate_nat, List.length_range, Nat.mul_comm]
  rw [sum_by_rows, ← List.sum_map_mul_right]
  exact congrArg List.sum (List.map_congr_left fun y _ => row y)

end Sums

theorem Placed.sum_sets (placed : manifest.Placed) {size : VideoSet → Nat}
    {amount : Coordinate → Nat}
    (same : ∀ video ∈ manifest.videoSets, size video = amount video.tile) :
    (manifest.videoSets.map size).sum = ((tiles manifest.grid).map amount).sum := by
  rw [← placed.coordinates_eq, coordinates, List.map_map]
  exact congrArg List.sum (List.map_congr_left same)

theorem Placed.meanExtent_eq (placed : manifest.Placed) {columnWidth rowHeight : Nat → Nat}
    (aligned : manifest.Aligned columnWidth rowHeight) :
    manifest.meanExtent = {
      width := ((List.range manifest.grid.columns).map columnWidth).sum
      height := ((List.range manifest.grid.rows).map rowHeight).sum } := by
  have widths : (manifest.videoSets.map (·.extent.width)).sum = _ :=
    (placed.sum_sets fun video member => by rw [aligned video member]).trans
      (sum_columns manifest.grid columnWidth)
  have heights : (manifest.videoSets.map (·.extent.height)).sum = _ :=
    (placed.sum_sets fun video member => by rw [aligned video member]).trans
      (sum_rows manifest.grid rowHeight)
  rw [meanExtent, widths, heights, Nat.mul_div_cancel _ placed.rows,
    Nat.mul_div_cancel _ placed.columns]

theorem Placed.meanExtent_uniform (placed : manifest.Placed) {extent : Extent}
    (uniform : ∀ video ∈ manifest.videoSets, video.extent = extent) :
    manifest.meanExtent = {
      width := extent.width * manifest.grid.columns
      height := extent.height * manifest.grid.rows } := by
  have aligned : manifest.Aligned (fun _ => extent.width) fun _ => extent.height := uniform
  rw [placed.meanExtent_eq aligned]
  simp [Nat.mul_comm]

/-- Of a side that is too long not even the share of a part is kept. -/
theorem word_div_eq_iff {part count : Nat} (positive : 0 < count) :
    part * count % 2 ^ 32 / count = part ↔ part * count < 2 ^ 32 := by
  constructor
  · intro share
    rw [← Nat.mod_eq_iff_lt (by decide)]
    apply Nat.le_antisymm (Nat.mod_le _ _)
    calc
      part * count = part * count % 2 ^ 32 / count * count := by rw [share]
      _ ≤ part * count % 2 ^ 32 := Nat.div_mul_le_self _ _
  · intro fits
    rw [Nat.mod_eq_of_lt fits, Nat.mul_div_cancel _ positive]

/-- The frame of a document that is read has the mean extent of rows and columns in words of 32
bits. It is the mean itself exactly if that fits; on aligned tiles the mean is the sum of the
columns by the sum of the rows, and tiles of one extent are shown with it exactly if they fit side
by side. -/
theorem frame_extent_averaged {document : String} (parsed : parse document = .ok manifest) :
    manifest.frameExtent = {
      width := manifest.meanExtent.width % 2 ^ 32
      height := manifest.meanExtent.height % 2 ^ 32 } ∧
    (manifest.frameExtent = manifest.meanExtent ↔
      manifest.meanExtent.width < 2 ^ 32 ∧ manifest.meanExtent.height < 2 ^ 32) ∧
    (∀ columnWidth rowHeight, manifest.Aligned columnWidth rowHeight →
      manifest.meanExtent = {
        width := ((List.range manifest.grid.columns).map columnWidth).sum
        height := ((List.range manifest.grid.rows).map rowHeight).sum }) ∧
    ∀ extent, (∀ video ∈ manifest.videoSets, video.extent = extent) →
      (manifest.tileExtent = extent ↔
        extent.width * manifest.grid.columns < 2 ^ 32 ∧
        extent.height * manifest.grid.rows < 2 ^ 32) := by
  obtain ⟨_, _, _, _, read⟩ := laidOut_of_parse parsed
  have placed := parse_placed parsed
  have frame : manifest.frameExtent = {
      width := manifest.meanExtent.width % 2 ^ 32
      height := manifest.meanExtent.height % 2 ^ 32 } := readFrameExtent_eq_ok read
  refine ⟨frame, ?_, fun _ _ => placed.meanExtent_eq, ?_⟩
  · rw [frame, Extent.eq_iff]
    exact and_congr (Nat.mod_eq_iff_lt (by decide)) (Nat.mod_eq_iff_lt (by decide))
  · intro extent uniform
    rw [tileExtent, frame, placed.meanExtent_uniform uniform, Nat.max_eq_left placed.columns,
      Nat.max_eq_left placed.rows, Extent.eq_iff]
    exact and_congr (word_div_eq_iff placed.columns) (word_div_eq_iff placed.rows)

section Sample

def panelText (place width : String) : String :=
  "<AdaptationSet maxWidth=\"" ++ width ++ "\" maxHeight=\"2\"><SupplementalProperty value=\"" ++
    place ++ "\"/><SegmentTemplate media=\"$Number$\" initialization=\"i\"/><Representation " ++
    "id=\"1\" bandwidth=\"1\" codecs=\"c\" mimeType=\"v\"/></AdaptationSet>"

def pairText (left right : String) : String :=
  "<MPD><Period>" ++ panelText "0,0,1,1,2,1" left ++ panelText "1,0,1,1,2,1" right ++
    "</Period></MPD>"

def declaredPanel (place width : String) : DeclaredSet where
  attributes := [("maxHeight", "2"), ("maxWidth", width)]
  properties := [("", place)]
  template := some [("initialization", "i"), ("media", "$Number$")]
  representations := [{
    attributes := [("mimeType", "v"), ("codecs", "c"), ("bandwidth", "1"), ("id", "1")]
    template := none }]

def declaredPair (left right : String) : Declaration where
  root := some []
  title := none
  sets := [declaredPanel "0,0,1,1,2,1" left, declaredPanel "1,0,1,1,2,1" right]

def panel (column width : Nat) : VideoSet where
  tile := { x := column, y := 0 }
  extent := { width, height := 2 }
  codecs := "c"
  mimeType := "v"
  representations := [{ id := 1, bandwidth := 1, media := "\x7b\x7d", initialization := "i" }]

def pair (left right : Nat) : Manifest where
  title := ""
  presentationDuration := none
  minBufferTime := none
  maxSegmentDuration := none
  grid := { columns := 2, rows := 1 }
  frameExtent := { width := (left + right) % 2 ^ 32, height := 2 }
  videoSets := [panel 0 left, panel 1 right]
  audioSet := none

theorem pairText_toList (left right : String) :
    (pairText left right).toList =
      "<MPD><Period>".toList ++ ((panelText "0,0,1,1,2,1" left).toList ++
        ((panelText "1,0,1,1,2,1" right).toList ++ "</Period></MPD>".toList)) := by
  simp only [pairText, String.toList_append, List.append_assoc]

theorem parse_pair {left right : String}
    (read : Declaration.read (pairText left right).toList = .ok (declaredPair left right))
    (made : ofDeclaration (declaredPair left right) = .ok manifest) :
    parse (pairText left right) = .ok manifest :=
  (parse_of_read read).trans made

theorem parse_pairs :
    parse (pairText "3" "5") = .ok (pair 3 5) ∧ parse (pairText "4" "4") = .ok (pair 4 4) ∧
    parse (pairText "2147483648" "2147483648") = .ok (pair 2147483648 2147483648) := by
  refine ⟨parse_pair ?_ (by decide +kernel), parse_pair ?_ (by decide +kernel),
    parse_pair ?_ (by decide +kernel)⟩
  -- The kernel reads a list of characters faster than the bytes of a string.
  all_goals
    rw [pairText_toList]
    unfold panelText
    simp only [String.toList_append, List.append_assoc]
    repeat rw [String.toList_ofList]
    decide +kernel

theorem pair_averaged :
    parse (pairText "3" "5") = .ok (pair 3 5) ∧
    (pair 3 5).frameExtent = { width := 3 + 5, height := 2 } ∧
    parse (pairText "4" "4") = .ok (pair 4 4) ∧
    (pair 4 4).tileExtent = { width := 4, height := 2 } := by
  obtain ⟨unequal, equal, _⟩ := parse_pairs
  obtain ⟨_, whole, sums, _⟩ := frame_extent_averaged unequal
  obtain ⟨_, _, _, shares⟩ := frame_extent_averaged equal
  have aligned : (pair 3 5).Aligned (fun x => 3 + 2 * x) fun _ => 2 := by
    unfold Aligned
    decide
  refine ⟨unequal, ?_, equal, (shares _ (by decide)).mpr (by decide)⟩
  rw [whole.mpr (by decide), sums _ _ aligned]
  rfl

/-- Two tiles of 2147483648 columns by 2 leave a frame without width. -/
theorem long_row_lost :
    parse (pairText "2147483648" "2147483648") = .ok (pair 2147483648 2147483648) ∧
    (pair 2147483648 2147483648).meanExtent = { width := 2 ^ 32, height := 2 } ∧
    (pair 2147483648 2147483648).frameExtent = { width := 0, height := 2 } ∧
    (pair 2147483648 2147483648).tileExtent = { width := 0, height := 2 } := by
  obtain ⟨_, _, long⟩ := parse_pairs
  exact ⟨long, by decide, by decide, by decide⟩

end Sample

end Manifest

end TiledStream
