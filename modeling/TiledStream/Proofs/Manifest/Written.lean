import TiledStream.Proofs.Manifest.Declared
import TiledStream.Proofs.Manifest.Seams

/-! The document of a presentation is read back as what it declares. -/

namespace TiledStream.Presentation

open Markup (Piece Scans isName)

variable {presentation : Presentation}

theorem mem_tiles {grid : Grid} {tile : Coordinate} :
    tile ∈ tiles grid ↔ tile.x < grid.columns ∧ tile.y < grid.rows := by
  simp only [tiles, List.mem_flatMap, List.mem_range, List.mem_map]
  constructor
  · rintro ⟨y, row, x, column, rfl⟩
    exact ⟨column, row⟩
  · rintro ⟨column, row⟩
    exact ⟨tile.y, row, tile.x, column, rfl⟩

theorem position_lt {grid : Grid} {x y : Nat} (column : x < grid.columns) (row : y < grid.rows) :
    y * grid.columns + x < grid.columns * grid.rows := by
  have full : (y + 1) * grid.columns ≤ grid.rows * grid.columns := Nat.mul_le_mul_right _ row
  rw [Nat.add_mul, Nat.one_mul, Nat.mul_comm grid.rows] at full
  omega

theorem number_le {tile : Coordinate} (inside : tile ∈ tiles presentation.grid) :
    presentation.number tile ≤ presentation.grid.columns * presentation.grid.rows := by
  obtain ⟨column, row⟩ := mem_tiles.mp inside
  have bound := position_lt column row
  simp only [number]
  omega

theorem tileIndex_number {tile : Coordinate}
    (small : presentation.grid.columns * presentation.grid.rows < 2 ^ 32)
    (inside : tile ∈ tiles presentation.grid) :
    tile.tileIndex presentation.grid.columns = .ok (presentation.number tile) := by
  have bound := number_le inside
  exact (fitWord_eq_ok_iff _ _ _).mpr ⟨by simp only [number] at bound; omega, rfl⟩

def document (presentation : Presentation) : List Piece :=
  Markup.element "MPD" presentation.rootEntries presentation.content

theorem pieces_eq (small : presentation.grid.columns * presentation.grid.rows < 2 ^ 32) :
    presentation.pieces = .ok presentation.document := by
  have sets : (tiles presentation.grid).mapM presentation.tilePieces =
      .ok ((tiles presentation.grid).map presentation.tileElement) := by
    apply mapM_of_forall
    intro tile inside
    rw [tilePieces, tileIndex_number small inside]
    rfl
  rw [pieces, sets]
  rfl

section Tags

theorem tag_start {name : String} {attributes : List (String × List Char)}
    (named : isName name = true) (keys : areKeys (attributes.map (·.1)) = true) :
    (Piece.start name attributes).isTag = true := by
  simp only [areKeys, Bool.and_eq_true, List.all_map] at keys
  rw [Piece.isTag, named, Bool.true_and]
  exact keys.1

theorem tag_empty {name : String} {attributes : List (String × List Char)}
    (named : isName name = true) (keys : areKeys (attributes.map (·.1)) = true) :
    (Piece.empty name attributes).isTag = true :=
  tag_start named keys

theorem tags_element {name : String} {attributes : List (String × List Char)}
    {inner : List Piece} (named : isName name = true)
    (keys : areKeys (attributes.map (·.1)) = true) (tags : ∀ piece ∈ inner, piece.isTag = true) :
    ∀ piece ∈ Markup.element name attributes inner, piece.isTag = true := by
  simp only [Markup.element, List.cons_append, List.forall_mem_cons, List.forall_mem_append]
  exact ⟨tag_start named keys, tags, named, List.forall_mem_nil _⟩

theorem tag_template (initialization media : List Char) :
    (template initialization media).isTag = true :=
  tag_empty (by decide) (keys_template initialization media)

theorem tags_rung (tileIndex : Nat) (rung : Rung) :
    ∀ piece ∈ presentation.rungPieces (tileTemplate tileIndex) rung, piece.isTag = true := by
  have keys : areKeys ((presentation.rungEntries rung).map (·.1)) = true := keys_rung rung
  unfold rungPieces
  split
  · exact tags_element (by decide) keys
      (List.forall_mem_singleton.mpr (tag_template _ _))
  · exact List.forall_mem_singleton.mpr (tag_empty (by decide) keys)

theorem tags_tile (tile : Coordinate) :
    ∀ piece ∈ presentation.tileElement tile, piece.isTag = true := by
  have rungs : ∀ piece ∈ presentation.ladder.flatMap
      (presentation.rungPieces (tileTemplate (presentation.number tile))), piece.isTag = true := by
    intro piece member
    obtain ⟨rung, _, inside⟩ := List.mem_flatMap.mp member
    exact tags_rung _ rung piece inside
  refine tags_element (by decide) keys_set (List.forall_mem_cons.mpr ⟨?_, ?_⟩)
  · exact tag_empty (by decide) (keys_property _ _)
  · split
    · exact rungs
    · exact List.forall_mem_cons.mpr ⟨tag_template _ _, rungs⟩

theorem tags_audio (track : AudioTrack) : ∀ piece ∈ audioPieces track, piece.isTag = true :=
  tags_element (by decide) (by decide)
    (tags_element (by decide) (keys_audio track)
      (List.forall_mem_singleton.mpr (tag_template _ _)))

theorem tags_period : ∀ piece ∈ Markup.element "Period" []
    (((tiles presentation.grid).map presentation.tileElement).flatten ++
      (presentation.audio.map audioPieces).getD []), piece.isTag = true := by
  refine tags_element (by decide) (by decide) (List.forall_mem_append.mpr ⟨?_, ?_⟩)
  · intro piece member
    rw [← List.flatMap_def] at member
    obtain ⟨tile, _, inside⟩ := List.mem_flatMap.mp member
    exact tags_tile tile piece inside
  · cases presentation.audio with
    | none => exact List.forall_mem_nil _
    | some track => exact tags_audio track

end Tags

theorem scans_document (presentation : Presentation) : Scans presentation.document := by
  have parts : presentation.document =
      [.start "MPD" presentation.rootEntries, .start "ProgramInformation" [], .start "Title" []] ++
        ([.text presentation.title.toList, .stop "Title"] ++
          (.stop "ProgramInformation" :: (Markup.element "Period" []
            (((tiles presentation.grid).map presentation.tileElement).flatten ++
              (presentation.audio.map audioPieces).getD []) ++ [.stop "MPD"]))) := by
    simp [document, content, Markup.element]
  rw [parts]
  refine (Markup.scans_tags ?_).append ((Markup.scans_text _ (by decide)).append
    (Markup.scans_tags ?_))
  · simp only [List.forall_mem_cons]
    exact ⟨tag_start (by decide) keys_root, by decide, by decide, List.forall_mem_nil _⟩
  · simp only [List.forall_mem_cons, List.forall_mem_append]
    exact ⟨by decide, tags_period, by decide, List.forall_mem_nil _⟩

theorem events_document (presentation : Presentation) :
    Markup.events (Markup.write presentation.document) =
      .ok (presentation.document.flatMap Piece.events) := by
  have scanned := presentation.scans_document []
  rw [List.append_nil, Markup.scan] at scanned
  -- A document that begins with a bracket has no byte order mark to drop.
  have first : ∃ rest, Markup.write presentation.document = '<' :: rest := ⟨_, rfl⟩
  obtain ⟨rest, first⟩ := first
  rw [first] at scanned ⊢
  simpa [Markup.events, Markup.unmarked, Except.map] using scanned

theorem read_document (presentation : Presentation) :
    Declaration.read (Markup.write presentation.document) = .ok presentation.declared := by
  have reads := presentation.reads_document
  have balanced := reads.balanced [] []
  rw [List.append_nil] at balanced
  exact Declaration.read_eq_ok.mpr
    ⟨_, _, presentation.events_document, balanced, reads.folded, rfl⟩

end TiledStream.Presentation
