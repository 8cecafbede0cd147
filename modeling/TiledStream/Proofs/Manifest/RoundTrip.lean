import TiledStream.Proofs.Manifest.Described

/-! The manifest of a written presentation is the one that was described. -/

namespace TiledStream.Presentation

variable {presentation : Presentation}

section Placing

def rasterTile (columns raster : Nat) : Coordinate where
  x := raster % columns
  y := raster / columns

theorem tiles_eq {columns : Nat} (positive : 0 < columns) (rows : Nat) :
    tiles { columns, rows } = (List.range (columns * rows)).map (rasterTile columns) := by
  induction rows with
  | zero => rfl
  | succ rows ih =>
      have last : (List.range columns).map (fun x => ({ x, y := rows } : Coordinate)) =
          ((List.range columns).map (columns * rows + ·)).map (rasterTile columns) := by
        rw [List.map_map]
        apply List.map_congr_left
        intro x member
        have small := List.mem_range.mp member
        simp only [Function.comp_apply, rasterTile, Nat.mul_add_mod, Nat.mod_eq_of_lt small,
          Nat.mul_add_div positive, Nat.div_eq_of_lt small, Nat.add_zero]
      simp only [tiles] at ih ⊢
      rw [List.range_succ, List.flatMap_append, ih, Nat.mul_succ, List.range_add, List.map_append,
        ← last]
      simp only [List.flatMap_cons, List.flatMap_nil, List.append_nil]

theorem tiles_raster (fits : presentation.Fits) :
    tiles presentation.grid =
      (List.range (presentation.grid.columns * presentation.grid.rows)).map
        (rasterTile presentation.grid.columns) :=
  tiles_eq fits.columns presentation.grid.rows

theorem rasterTile_mem (fits : presentation.Fits) {raster : Nat}
    (bound : raster < presentation.grid.columns * presentation.grid.rows) :
    rasterTile presentation.grid.columns raster ∈ tiles presentation.grid :=
  mem_tiles.mpr ⟨Nat.mod_lt _ fits.columns, Nat.div_lt_of_lt_mul bound⟩

theorem rasterIndex_rasterTile (fits : presentation.Fits) {raster : Nat}
    (bound : raster < presentation.grid.columns * presentation.grid.rows) :
    (rasterTile presentation.grid.columns raster).rasterIndex presentation.grid.columns =
      .ok raster := by
  have position : raster / presentation.grid.columns * presentation.grid.columns +
      raster % presentation.grid.columns = raster := Nat.div_add_mod' raster _
  refine (fitWord_eq_ok_iff _ _ _).mpr ⟨?_, position.symm⟩
  simp only [rasterTile, position]
  exact Nat.lt_trans bound fits.tiles

theorem placeSet_tiles (fits : presentation.Fits) {count : Nat}
    (within : count ≤ presentation.grid.columns * presentation.grid.rows) :
    (((List.range count).map (rasterTile presentation.grid.columns)).map
        presentation.declaredTile).foldlM (placeSet presentation.grid)
        (List.replicate (presentation.grid.columns * presentation.grid.rows) none) =
      .ok ((((List.range count).map (rasterTile presentation.grid.columns)).map
          presentation.videoSet).map some ++
        List.replicate (presentation.grid.columns * presentation.grid.rows - count) none) := by
  induction count with
  | zero => rfl
  | succ count ih =>
      have read := readVideoSet_tile fits (rasterTile_mem fits within)
      have indexed : (presentation.videoSet (rasterTile presentation.grid.columns count)).tile.rasterIndex
          presentation.grid.columns = .ok count := rasterIndex_rasterTile fits within
      have before := ih (Nat.le_of_succ_le within)
      generalize presentation.grid.columns * presentation.grid.rows = size at *
      have left : size - count = size - (count + 1) + 1 := by omega
      rw [List.range_succ, List.map_append, List.map_append, List.foldlM_append, before, left,
        List.replicate_succ, List.map_append, List.map_append]
      generalize done : (((List.range count).map (rasterTile presentation.grid.columns)).map
        presentation.videoSet).map some = placed
      have length : placed.length = count := by simp [← done]
      have free : (placed ++ none :: List.replicate (size - (count + 1)) none)[count]? =
          some none := by
        rw [List.getElem?_append_right (Nat.le_of_eq length), length, Nat.sub_self]
        rfl
      simp only [List.map_cons, List.map_nil, bind, Except.bind, List.foldlM_cons, placeSet, read,
        orManifestError, indexed, orFault, free]
      rw [List.set_append_right _ _ (Nat.le_of_eq length), length, Nat.sub_self, List.set_cons_zero,
        List.append_assoc]
      rfl

theorem takeSlots_map (grid : Grid) (index : Nat) (videoSets : List VideoSet) :
    takeSlots grid index (videoSets.map some) = .ok videoSets := by
  induction videoSets generalizing index with
  | nil => rfl
  | cons video videoSets ih =>
      rw [List.map_cons, takeSlots, ih]
      rfl

theorem placeSets_tiles (fits : presentation.Fits) :
    placeSets presentation.grid ((tiles presentation.grid).map presentation.declaredTile) =
      .ok ((tiles presentation.grid).map presentation.videoSet) := by
  have counted : fitWord 32 (presentation.grid.columns * presentation.grid.rows) = .ok _ :=
    (fitWord_eq_ok_iff _ _ _).mpr ⟨fits.tiles, rfl⟩
  have placed := placeSet_tiles fits (Nat.le_refl _)
  rw [Nat.sub_self, List.replicate_zero, List.append_nil, ← tiles_raster fits] at placed
  simp only [placeSets, counted, orFault, bind, Except.bind, placed, takeSlots_map]

end Placing

theorem sum_tiles {count other part : Nat} (small : count < 2 ^ 32)
    (bounded : other * part < 2 ^ 32) (items : List VideoSet) (length : items.length = other * count)
    (size : VideoSet → Nat) (same : ∀ item ∈ items, size item = part) :
    fitWord 64 (items.map size).sum = .ok (other * part * count) := by
  -- The sum is over all tiles, so it is bounded by a frame side times the tiles of the other.
  have sum : (items.map size).sum = other * part * count := by
    rw [List.map_congr_left same, List.map_const', List.sum_replicate_nat, length,
      Nat.mul_right_comm]
  have product : other * part * count < 2 ^ 32 * 2 ^ 32 := Nat.mul_lt_mul'' bounded small
  rw [sum]
  exact (fitWord_eq_ok_iff _ _ _).mpr ⟨product, rfl⟩

theorem readFrameExtent_tiles (fits : presentation.Fits) :
    readFrameExtent presentation.grid ((tiles presentation.grid).map presentation.videoSet) =
      .ok presentation.manifest.frameExtent := by
  have columns := fits.columns
  have rows := fits.rows
  have length : ((tiles presentation.grid).map presentation.videoSet).length =
      presentation.grid.columns * presentation.grid.rows := by
    rw [tiles_raster fits, List.length_map, List.length_map, List.length_range]
  have fewColumns : presentation.grid.columns < 2 ^ 32 :=
    Nat.lt_of_le_of_lt (Nat.le_mul_of_pos_right _ rows) fits.tiles
  have fewRows : presentation.grid.rows < 2 ^ 32 :=
    Nat.lt_of_le_of_lt (Nat.le_mul_of_pos_left _ columns) fits.tiles
  have each (view : VideoSet → Nat) (part : Nat)
      (same : ∀ tile, view (presentation.videoSet tile) = part) :
      ∀ set ∈ (tiles presentation.grid).map presentation.videoSet, view set = part := by
    intro set member
    obtain ⟨tile, _, rfl⟩ := List.mem_map.mp member
    exact same tile
  have widths := sum_tiles fewRows fits.width _ length (·.extent.width)
    (each _ presentation.tileExtent.width fun _ => rfl)
  have heights := sum_tiles fewColumns fits.height _ (length.trans (Nat.mul_comm _ _))
    (·.extent.height) (each _ presentation.tileExtent.height fun _ => rfl)
  simp only [readFrameExtent, widths, heights, bind, Except.bind]
  rw [if_neg (by omega), Nat.mul_div_cancel _ rows, Nat.mul_div_cancel _ columns,
    Nat.mod_eq_of_lt fits.width, Nat.mod_eq_of_lt fits.height]
  rfl

section Root

theorem keys_root_eq : presentation.rootEntries.map (·.1) =
    ["xmlns", "type", "profiles"] ++
      (if presentation.presentationDuration.isSome then ["mediaPresentationDuration"] else []) ++
      (if presentation.minBufferTime.isSome then ["minBufferTime"] else []) ++
      (if presentation.maxSegmentDuration.isSome then ["maxSegmentDuration"] else []) := by
  simp only [rootEntries, List.map_append, keys_durationAttribute]
  rfl

theorem readDuration_root {key : String} {duration : Option Duration}
    (written : ∀ value, duration = some value →
      (key, value.write) ∈ presentation.rootEntries ∧ value.milliseconds < 2 ^ 64)
    (absent : duration = none → key ∉ presentation.rootEntries.map (·.1)) :
    readDuration (readAs presentation.rootEntries) key = .ok (duration.map Duration.truncated) := by
  cases duration with
  | none =>
      rw [readDuration, value?_of_not_mem (absent rfl)]
      rfl
  | some duration =>
      obtain ⟨member, small⟩ := written duration rfl
      rw [readDuration, value?_of_mem keys_root member, Option.mapM_some, duration.read_write,
        Nat.mod_eq_of_lt small]
      rfl

theorem readDuration_presentation (fits : presentation.Fits) :
    readDuration (readAs presentation.rootEntries) "mediaPresentationDuration" =
      .ok presentation.manifest.presentationDuration := by
  refine readDuration_root (fun value declared => ⟨?_, fits.presentationDuration value declared⟩)
    fun none => ?_
  · simp only [rootEntries, declared, durationAttribute, List.mem_append, List.mem_singleton,
      true_or, or_true]
  · rw [keys_root_eq, none]
    cases presentation.minBufferTime.isSome <;> cases presentation.maxSegmentDuration.isSome <;>
      decide

theorem readDuration_buffer (fits : presentation.Fits) :
    readDuration (readAs presentation.rootEntries) "minBufferTime" =
      .ok presentation.manifest.minBufferTime := by
  refine readDuration_root (fun value declared => ⟨?_, fits.minBufferTime value declared⟩)
    fun none => ?_
  · simp only [rootEntries, declared, durationAttribute, List.mem_append, List.mem_singleton,
      true_or, or_true]
  · rw [keys_root_eq, none]
    cases presentation.presentationDuration.isSome <;>
      cases presentation.maxSegmentDuration.isSome <;> decide

theorem readDuration_segment (fits : presentation.Fits) :
    readDuration (readAs presentation.rootEntries) "maxSegmentDuration" =
      .ok presentation.manifest.maxSegmentDuration := by
  refine readDuration_root (fun value declared => ⟨?_, fits.maxSegmentDuration value declared⟩)
    fun none => ?_
  · simp only [rootEntries, declared, durationAttribute, List.mem_append, List.mem_singleton,
      or_true]
  · rw [keys_root_eq, none]
    cases presentation.presentationDuration.isSome <;> cases presentation.minBufferTime.isSome <;>
      decide

end Root

section Sets

theorem audio_declared (fits : presentation.Fits) :
    presentation.declared.sets.filter (·.isAudio) =
      (presentation.audio.map declaredAudio).toList := by
  have none : ((tiles presentation.grid).map presentation.declaredTile).filter (·.isAudio) = [] := by
    apply List.filter_eq_nil_iff.mpr
    intro set member
    obtain ⟨tile, _, rfl⟩ := List.mem_map.mp member
    simp only [isAudio_tile fits tile, Bool.false_eq_true, not_false_eq_true]
  rw [declared, List.filter_append, none, List.nil_append]
  cases presentation.audio with
  | none => rfl
  | some track =>
      simp only [Option.map_some, Option.toList_some, List.filter_cons, isAudio_audio, ↓reduceIte,
        List.filter_nil]

theorem video_declared (fits : presentation.Fits) :
    presentation.declared.sets.filter (fun set => !set.isAudio) =
      (tiles presentation.grid).map presentation.declaredTile := by
  have all : ((tiles presentation.grid).map presentation.declaredTile).filter
      (fun set => !set.isAudio) = (tiles presentation.grid).map presentation.declaredTile := by
    apply List.filter_eq_self.mpr
    intro set member
    obtain ⟨tile, _, rfl⟩ := List.mem_map.mp member
    rw [isAudio_tile fits tile, Bool.not_false]
  rw [declared, List.filter_append, all]
  cases presentation.audio with
  | none => exact List.append_nil _
  | some track =>
      simp only [Option.map_some, Option.toList_some, List.filter_cons, isAudio_audio,
        Bool.not_true, Bool.false_eq_true, ↓reduceIte, List.filter_nil, List.append_nil]

end Sets

theorem readAudioSet_declared (fits : presentation.Fits) :
    (presentation.audio.map declaredAudio).toList.head?.mapM readAudioSet =
      .ok presentation.manifest.audioSet := by
  unfold manifest
  cases sound : presentation.audio with
  | none => rfl
  | some track =>
      have read := readAudioSet_track (fits.track track sound)
      simp only [Option.map_some, Option.toList_some, List.head?_cons, Option.mapM_some, read]
      rfl

theorem readGrid_declared (fits : presentation.Fits) :
    ∃ first, ((tiles presentation.grid).map presentation.declaredTile).head? = some first ∧
      readGrid first ((tiles presentation.grid).map presentation.declaredTile).length =
        .ok presentation.grid := by
  have length : ((tiles presentation.grid).map presentation.declaredTile).length =
      presentation.grid.columns * presentation.grid.rows := by
    rw [tiles_raster fits, List.length_map, List.length_map, List.length_range]
  have positive := Nat.mul_pos fits.columns fits.rows
  have member := rasterTile_mem fits positive
  cases all : tiles presentation.grid with
  | nil => simp [all] at member
  | cons tile rest =>
      refine ⟨presentation.declaredTile tile, rfl, ?_⟩
      rw [← all]
      exact readGrid_tile fits (all ▸ List.mem_cons_self) (Nat.le_of_eq length.symm)

theorem ofDeclaration_declared (fits : presentation.Fits) :
    Manifest.ofDeclaration presentation.declared = .ok presentation.manifest := by
  obtain ⟨first, head, grid⟩ := readGrid_declared fits
  have root : presentation.declared.root = some (readAs presentation.rootEntries) := rfl
  simp only [Manifest.ofDeclaration, root, require, orManifestError, readDuration_presentation fits,
    readDuration_buffer fits, readDuration_segment fits, audio_declared fits, video_declared fits,
    head, grid, placeSets_tiles fits, readAudioSet_declared fits, readFrameExtent_tiles fits,
    orFault, bind, Except.bind]
  rfl

theorem parse_document (fits : presentation.Fits) :
    ∃ text, presentation.write = .ok text ∧ Manifest.parse text = .ok presentation.manifest := by
  refine ⟨String.ofList (Markup.write presentation.document), ?_, ?_⟩
  · rw [write, pieces_eq fits.tiles]
    rfl
  · rw [Manifest.parse, String.toList_ofList, read_document]
    exact ofDeclaration_declared fits

structure Renders (tileIndex : Nat) (rung : Rung) (representation : Representation) : Prop where
  id : representation.id = rung.id
  bandwidth : representation.bandwidth = rung.bandwidth
  media : ∀ segment, representation.mediaPath segment = .ok (mediaPath tileIndex rung.id segment)
  initialization : representation.initialization = initializationPath tileIndex rung.id

structure Shows (presentation : Presentation) (tile : Coordinate) (tileIndex : Nat)
    (video : VideoSet) : Prop where
  tile : video.tile = tile
  extent : video.extent = presentation.tileExtent
  codecs : video.codecs = presentation.codecs
  mimeType : video.mimeType = "video/mp4"
  length : video.representations.length = presentation.ladder.length
  ladder : ∀ (index : Nat) (rung : Rung), presentation.ladder[index]? = some rung →
    ∃ representation, video.representation index = .ok representation ∧
      Renders tileIndex rung representation

structure Sounds (track : AudioTrack) (audio : AudioSet) : Prop where
  codecs : audio.codecs = track.codecs
  mimeType : audio.mimeType = "audio/mp4"
  sampleRate : audio.sampleRate = track.sampleRate
  id : audio.representation.id = 0
  bandwidth : audio.representation.bandwidth = track.bandwidth
  media : ∀ segment, audio.representation.mediaPath segment = .ok (audioMediaPath segment)
  initialization : audio.representation.initialization = audioInitializationPath

/-- A manifest says of a presentation what its publisher said. -/
structure Describes (presentation : Presentation) (manifest : Manifest) : Prop where
  title : manifest.title = String.ofList (Text.trim presentation.title.toList)
  presentationDuration : manifest.presentationDuration =
    presentation.presentationDuration.map Duration.truncated
  minBufferTime : manifest.minBufferTime = presentation.minBufferTime.map Duration.truncated
  maxSegmentDuration : manifest.maxSegmentDuration =
    presentation.maxSegmentDuration.map Duration.truncated
  grid : manifest.grid = presentation.grid
  frameExtent : manifest.frameExtent = {
    width := presentation.grid.columns * presentation.tileExtent.width
    height := presentation.grid.rows * presentation.tileExtent.height }
  tileExtent : manifest.tileExtent = presentation.tileExtent
  length : manifest.videoSets.length = presentation.grid.columns * presentation.grid.rows
  raster : ∀ x y, x < presentation.grid.columns → y < presentation.grid.rows →
    ∃ video tileIndex, manifest.videoSets[y * presentation.grid.columns + x]? = some video ∧
      manifest.videoSet { x, y } = .ok video ∧ manifest.tileIndex { x, y } = .ok tileIndex ∧
      presentation.Shows { x, y } tileIndex video
  silent : presentation.audio = none → manifest.audioSet = none
  sound : ∀ track, presentation.audio = some track →
    ∃ audio, manifest.audioSet = some audio ∧ Sounds track audio

theorem renders_representation (tileIndex : Nat) (rung : Rung) :
    Renders tileIndex rung (representation tileIndex rung) where
  id := rfl
  bandwidth := rfl
  media segment := by
    have text : (String.ofList (slotted tileIndex rung.id)).toList = slotted tileIndex rung.id :=
      String.toList_ofList
    rw [Representation.mediaPath, representation, text]
    exact fillSlot_slotted tileIndex rung.id segment
  initialization := rfl

theorem shows_videoSet (presentation : Presentation) (tile : Coordinate) :
    presentation.Shows tile (presentation.number tile) (presentation.videoSet tile) where
  tile := rfl
  extent := rfl
  codecs := rfl
  mimeType := rfl
  length := List.length_map _
  ladder index rung found := by
    refine ⟨representation (presentation.number tile) rung, ?_, renders_representation _ rung⟩
    simp only [VideoSet.representation, elementAt, videoSet, List.getElem?_map, found,
      Option.map_some]

theorem sounds_audioSet (track : AudioTrack) : Sounds track (audioSet track) where
  codecs := rfl
  mimeType := rfl
  sampleRate := rfl
  id := rfl
  bandwidth := rfl
  media segment := by
    have stem : "audio_".toList.all isStemChar = true := by decide
    have plain : ∀ c ∈ "audio_".toList, c ≠ '\x7b' :=
      fun c member => (isStemChar_ne (List.all_eq_true.mp stem c member)).2
    have filled := fillSlot_plain ".m4s".toList segment plain
    have text : "audio_\x7b\x7d.m4s".toList =
        "audio_".toList ++ '\x7b' :: '\x7d' :: ".m4s".toList := by decide
    rw [Representation.mediaPath, audioSet, text, filled]
    rfl
  initialization := rfl

theorem rasterTile_position {columns x : Nat} (y : Nat) (column : x < columns) :
    rasterTile columns (y * columns + x) = { x, y } := by
  have positive : 0 < columns := Nat.zero_lt_of_lt column
  rw [rasterTile, Nat.mul_comm, Nat.mul_add_mod, Nat.mod_eq_of_lt column,
    Nat.mul_add_div positive, Nat.div_eq_of_lt column, Nat.add_zero]

theorem videoSets_position (fits : presentation.Fits) {x y : Nat}
    (column : x < presentation.grid.columns) (row : y < presentation.grid.rows) :
    y * presentation.grid.columns + x < presentation.grid.columns * presentation.grid.rows ∧
      presentation.manifest.videoSets[y * presentation.grid.columns + x]? =
        some (presentation.videoSet { x, y }) := by
  have bound := position_lt column row
  refine ⟨bound, ?_⟩
  rw [manifest, tiles_raster fits, List.map_map, List.getElem?_map, List.getElem?_range bound]
  simp only [Option.map_some, Function.comp_apply, rasterTile_position y column]

theorem videoSet_manifest (fits : presentation.Fits) {x y : Nat}
    (column : x < presentation.grid.columns) (row : y < presentation.grid.rows) :
    presentation.manifest.videoSet { x, y } = .ok (presentation.videoSet { x, y }) := by
  obtain ⟨bound, found⟩ := videoSets_position fits column row
  have contained : presentation.manifest.grid.contains { x, y } = true := by
    simp only [manifest, Grid.contains, column, row, decide_true, Bool.and_self]
  have position : ({ x, y } : Coordinate).rasterIndex presentation.manifest.grid.columns =
      .ok (y * presentation.grid.columns + x) :=
    (fitWord_eq_ok_iff _ _ _).mpr ⟨Nat.lt_trans bound fits.tiles, rfl⟩
  simp only [Manifest.videoSet, Manifest.checkInside, contained, ↓reduceIte, position, elementAt,
    found, bind, Except.bind]

theorem describes_manifest (fits : presentation.Fits) :
    presentation.Describes presentation.manifest where
  title := rfl
  presentationDuration := rfl
  minBufferTime := rfl
  maxSegmentDuration := rfl
  grid := rfl
  frameExtent := rfl
  tileExtent := by
    simp only [Manifest.tileExtent, manifest, Nat.max_eq_left fits.columns,
      Nat.max_eq_left fits.rows, Nat.mul_div_cancel_left _ fits.columns,
      Nat.mul_div_cancel_left _ fits.rows]
  length := by rw [manifest, List.length_map, tiles_raster fits, List.length_map, List.length_range]
  raster x y column row :=
    ⟨presentation.videoSet { x, y }, presentation.number { x, y },
      (videoSets_position fits column row).2, videoSet_manifest fits column row,
      tileIndex_number fits.tiles (mem_tiles.mpr ⟨column, row⟩), presentation.shows_videoSet _⟩
  silent none := by
    rw [manifest, none]
    rfl
  sound track some := ⟨audioSet track, by rw [manifest, some]; rfl, sounds_audioSet track⟩

/-- For every title, every codecs and every grid, what is written is read back as described. -/
theorem written_manifest_describes (presentation : Presentation) (fits : presentation.Fits) :
    ∃ text manifest, presentation.write = .ok text ∧ Manifest.parse text = .ok manifest ∧
      presentation.Describes manifest := by
  obtain ⟨text, written, parsed⟩ := parse_document fits
  exact ⟨text, presentation.manifest, written, parsed, describes_manifest fits⟩

def gallery : Presentation :=
  { tiled 3 2 with
    title := " Rock & <Roll>\t"
    codecs := "\"hvc1\""
    presentationDuration := some (.ofParts 3723 500900000)
    minBufferTime := some (.ofParts 0 40000000)
    inlineTemplates := true
    ladder := [{ id := 2, bandwidth := 1200000 }, { id := 1, bandwidth := 600000 }]
    audio := some { codecs := "mp4a.40.2", sampleRate := 48000, bandwidth := 96000 } }

theorem gallery_fits : gallery.Fits where
  columns := by decide
  rows := by decide
  tiles := by decide
  width := by decide
  height := by decide
  presentationDuration duration some := by
    obtain rfl : Duration.ofParts 3723 500900000 = duration := Option.some.inj some
    decide
  minBufferTime duration some := by
    obtain rfl : Duration.ofParts 0 40000000 = duration := Option.some.inj some
    decide
  maxSegmentDuration duration some := by cases some
  rung := by decide
  rungs := by decide
  track track some := by
    obtain rfl : { codecs := "mp4a.40.2", sampleRate := 48000, bandwidth := 96000 } = track :=
      Option.some.inj some
    decide

theorem written_gallery_describes :
    gallery.Fits ∧ ∃ text manifest, gallery.write = .ok text ∧
      Manifest.parse text = .ok manifest ∧ gallery.Describes manifest :=
  ⟨gallery_fits, written_manifest_describes gallery gallery_fits⟩

end TiledStream.Presentation
