import TiledStream.Manifest.Layout
import TiledStream.Proofs.Duration.Written
import TiledStream.Proofs.Manifest.Template
import TiledStream.Proofs.Manifest.Written

/-! The manifest that a presentation describes, and each of its sets read from what is declared. -/

namespace TiledStream.Presentation

/-- The promises of a publisher: a grid with tiles and a ladder with rungs, and numbers that fit
their words. -/
structure Fits (presentation : Presentation) : Prop where
  columns : 0 < presentation.grid.columns
  rows : 0 < presentation.grid.rows
  tiles : presentation.grid.columns * presentation.grid.rows < 2 ^ 32
  width : presentation.grid.columns * presentation.tileExtent.width < 2 ^ 32
  height : presentation.grid.rows * presentation.tileExtent.height < 2 ^ 32
  presentationDuration : ∀ duration, presentation.presentationDuration = some duration →
    duration.milliseconds < 2 ^ 64
  minBufferTime : ∀ duration, presentation.minBufferTime = some duration →
    duration.milliseconds < 2 ^ 64
  maxSegmentDuration : ∀ duration, presentation.maxSegmentDuration = some duration →
    duration.milliseconds < 2 ^ 64
  rung : presentation.ladder ≠ []
  rungs : ∀ rung ∈ presentation.ladder, rung.id < 2 ^ 32 ∧ rung.bandwidth < 2 ^ 64
  track : ∀ track, presentation.audio = some track →
    track.sampleRate < 2 ^ 32 ∧ track.bandwidth < 2 ^ 64

def representation (tileIndex : Nat) (rung : Rung) : Representation where
  id := rung.id
  bandwidth := rung.bandwidth
  media := String.ofList (slotted tileIndex rung.id)
  initialization := initializationPath tileIndex rung.id

def audioSet (track : AudioTrack) : AudioSet where
  codecs := track.codecs
  mimeType := "audio/mp4"
  sampleRate := track.sampleRate
  representation := {
    id := 0
    bandwidth := track.bandwidth
    media := "audio_\x7b\x7d.m4s"
    initialization := audioInitializationPath }

variable (presentation : Presentation)

def videoSet (tile : Coordinate) : VideoSet where
  tile := tile
  extent := presentation.tileExtent
  codecs := presentation.codecs
  mimeType := "video/mp4"
  representations := presentation.ladder.map (representation (presentation.number tile))

def manifest : Manifest where
  title := String.ofList (Text.trim presentation.title.toList)
  presentationDuration := presentation.presentationDuration.map Duration.truncated
  minBufferTime := presentation.minBufferTime.map Duration.truncated
  maxSegmentDuration := presentation.maxSegmentDuration.map Duration.truncated
  grid := presentation.grid
  frameExtent := {
    width := presentation.grid.columns * presentation.tileExtent.width
    height := presentation.grid.rows * presentation.tileExtent.height }
  videoSets := (tiles presentation.grid).map presentation.videoSet
  audioSet := presentation.audio.map audioSet

variable {presentation}

theorem firstRung (fits : presentation.Fits) (tile : Coordinate) :
    ∃ rung ∈ presentation.ladder,
      (presentation.declaredTile tile).representations.head? =
        some (presentation.declaredRung (presentation.number tile) rung) := by
  obtain ⟨rung, ladder, split⟩ := List.exists_cons_of_ne_nil fits.rung
  refine ⟨rung, ?_, ?_⟩
  · rw [split]
    exact List.mem_cons_self
  · rw [declaredTile, split]
    rfl

theorem inherited?_tile (fits : presentation.Fits) (tile : Coordinate) (key : String)
    (value : List Char) (shared : ∀ rung, (key, value) ∈ presentation.rungEntries rung) :
    (presentation.declaredTile tile).inherited? key = some (String.ofList value) := by
  obtain ⟨rung, _, head⟩ := firstRung fits tile
  exact inherited?_of_first head (value?_of_mem (keys_rung rung) (shared rung))

theorem mimeType?_tile (fits : presentation.Fits) (tile : Coordinate) :
    (presentation.declaredTile tile).mimeType? = some "video/mp4" := by
  have found := inherited?_tile fits tile "mimeType" "video/mp4".toList fun _ => by
    simp only [rungEntries, List.mem_cons, true_or, or_true]
  rw [DeclaredSet.mimeType?, found, String.ofList_toList]

theorem codecs_tile (fits : presentation.Fits) (tile : Coordinate) :
    (presentation.declaredTile tile).inherited? "codecs" = some presentation.codecs := by
  have found := inherited?_tile fits tile "codecs" presentation.codecs.toList fun _ => by
    simp only [rungEntries, List.mem_cons, true_or, or_true]
  rw [found, String.ofList_toList]

theorem isAudio_tile (fits : presentation.Fits) (tile : Coordinate) :
    (presentation.declaredTile tile).isAudio = false := by
  have video : Text.contains "audio".toList "video/mp4".toList = false := by decide
  have content : (presentation.declaredTile tile).attributes.value? "contentType" = none :=
    value?_of_not_mem (show "contentType" ∉ ["segmentAlignment", "maxWidth", "maxHeight"] by decide)
  rw [DeclaredSet.isAudio, mimeType?_tile fits tile, content, Option.any_some, video]
  rfl

theorem mimeType?_audio (track : AudioTrack) : (declaredAudio track).mimeType? = some "audio/mp4" := by
  have found : (readAs (audioEntries track)).value? "mimeType" = _ :=
    value?_of_mem (keys_audio track) (show ("mimeType", "audio/mp4".toList) ∈ _ by
      simp only [audioEntries, List.mem_cons, true_or, or_true])
  rw [DeclaredSet.mimeType?, inherited?_of_first rfl found, String.ofList_toList]

theorem isAudio_audio (track : AudioTrack) : (declaredAudio track).isAudio = true := by
  have audio : Text.contains "audio".toList "audio/mp4".toList = true := by decide
  rw [DeclaredSet.isAudio, mimeType?_audio, Option.any_some, audio, Bool.true_or]

theorem numberAttribute_digits {bits number : Nat} (key : String) (small : number < 2 ^ bits) :
    numberAttribute bits key (String.ofList (Text.digitsOf number)) = .ok number := by
  rw [numberAttribute, String.toList_ofList, Text.trim_digitsOf, Text.readUnsigned?_digitsOf small]
  rfl

section Spatial

theorem fields?_spatial {grid : Grid} {tile : Coordinate}
    (small : ∀ number ∈ [0, tile.x, tile.y, 1, 1, grid.columns, grid.rows], number < 2 ^ 32) :
    SpatialDescription.fields? (spatialValue grid tile) =
      some [0, tile.x, tile.y, 1, 1, grid.columns, grid.rows] := by
  have split : (spatialValue grid tile).splitOn ',' =
      [0, tile.x, tile.y, 1, 1, grid.columns, grid.rows].map Text.digitsOf := by
    refine List.splitOn_intercalate ',' (fun field member comma => ?_) (by simp)
    obtain ⟨number, _, rfl⟩ := List.mem_map.mp member
    have digit := Text.isDigit_of_mem_digitsOf comma
    revert digit
    decide
  rw [SpatialDescription.fields?, split, List.mapM_map]
  have each : ∀ number ∈ [0, tile.x, tile.y, 1, 1, grid.columns, grid.rows],
      Text.readUnsigned? 32 (Text.trim (Text.digitsOf number)) = some (id number) := by
    intro number member
    rw [Text.trim_digitsOf, Text.readUnsigned?_digitsOf (small number member), id]
  have all := mapM_of_forall each
  rw [List.map_id] at all
  exact all

theorem ofSet_tile (fits : presentation.Fits) {tile : Coordinate}
    (inside : tile ∈ tiles presentation.grid) :
    SpatialDescription.ofSet (presentation.declaredTile tile) =
      .ok { tile, total := presentation.grid } := by
  obtain ⟨column, row⟩ := mem_tiles.mp inside
  have columns : presentation.grid.columns ≤ presentation.grid.columns * presentation.grid.rows :=
    Nat.le_mul_of_pos_right _ fits.rows
  have rows : presentation.grid.rows ≤ presentation.grid.columns * presentation.grid.rows :=
    Nat.le_mul_of_pos_left _ fits.columns
  have tiles := fits.tiles
  have fields := fields?_spatial (show ∀ number ∈ [0, tile.x, tile.y, 1, 1, presentation.grid.columns,
      presentation.grid.rows], number < 2 ^ 32 by
    simp only [List.forall_mem_cons]
    exact ⟨by omega, by omega, by omega, by omega, by omega, by omega, by omega,
      List.forall_mem_nil _⟩)
  have scheme : Text.contains "srd".toList "urn:mpeg:dash:srd:2014".toList = true := by decide
  have described : (presentation.declaredTile tile).spatialDescription? =
      some (String.ofList (spatialValue presentation.grid tile)) := by
    simp only [DeclaredSet.spatialDescription?, declaredTile, List.find?_cons, scheme,
      Option.some_or, Option.map_some]
  rw [SpatialDescription.ofSet, described]
  simp only [require, bind, Except.bind, SpatialDescription.read, String.toList_ofList, fields,
    Option.bind_some, SpatialDescription.ofFields?]

theorem readGrid_tile (fits : presentation.Fits) {tile : Coordinate}
    (inside : tile ∈ tiles presentation.grid) {sets : Nat}
    (enough : presentation.grid.columns * presentation.grid.rows ≤ sets) :
    readGrid (presentation.declaredTile tile) sets = .ok presentation.grid := by
  have columns := fits.columns
  have rows := fits.rows
  simp only [readGrid, ofSet_tile fits inside, bind, Except.bind]
  rw [if_neg (by omega), if_pos ⟨fits.tiles, enough⟩]

end Spatial

theorem readExtent_tile (tile : Coordinate) {greatest own : String} {extent : Nat}
    (declares : (greatest, Text.digitsOf extent) ∈ presentation.setEntries)
    (small : extent < 2 ^ 32) :
    readExtent (presentation.declaredTile tile) greatest own = .ok extent := by
  have found : (presentation.declaredTile tile).attributes.value? greatest =
      some (String.ofList (Text.digitsOf extent)) := value?_of_mem keys_set declares
  simp only [readExtent, found, Option.some_or, require, bind, Except.bind,
    numberAttribute_digits greatest small]

theorem readRepresentation_of_found {declared : DeclaredRepresentation}
    {setTemplate : Option Markup.Attributes} {template : Markup.Attributes} {id bandwidth : Nat}
    {media initialization : List Char} {slot : String} {numbered : Bool}
    (idFound : declared.attributes.value? "id" = some (String.ofList (Text.digitsOf id)))
    (bandwidthFound :
      declared.attributes.value? "bandwidth" = some (String.ofList (Text.digitsOf bandwidth)))
    (templateFound : declared.template.or setTemplate = some template)
    (mediaFound : template.value? "media" = some (String.ofList media))
    (initializationFound :
      template.value? "initialization" = some (String.ofList initialization))
    (slotted : readMedia numbered (MediaTemplate.substitute media (Text.digitsOf id)
      (Text.digitsOf bandwidth)) = .ok slot)
    (idSmall : id < 2 ^ 32) (bandwidthSmall : bandwidth < 2 ^ 64) :
    readRepresentation declared setTemplate numbered = .ok {
      id
      bandwidth
      media := slot
      initialization := String.ofList (MediaTemplate.substitute initialization
        (Text.digitsOf id) (Text.digitsOf bandwidth)) } := by
  have text (part : List Char) : (String.ofList part).toList = part := String.toList_ofList
  simp only [readRepresentation, representationAttribute, templateAttribute, idFound,
    bandwidthFound, templateFound, mediaFound, initializationFound, require, bind, Except.bind,
    text, slotted, numberAttribute_digits "id" idSmall,
    numberAttribute_digits "bandwidth" bandwidthSmall]
  rfl

theorem template_tile (tile : Coordinate) (rung : Rung) :
    (presentation.declaredRung (presentation.number tile) rung).template.or
        (presentation.declaredTile tile).template =
      some (readAs (tileTemplateEntries (presentation.number tile))) := by
  unfold declaredRung declaredTile
  cases presentation.inlineTemplates <;> rfl

theorem readMedia_tile (tileIndex id bandwidth : Nat) :
    readMedia true (MediaTemplate.substitute
        (pathStem tileIndex "$RepresentationID$".toList ++ "$Number$.m4s".toList)
        (Text.digitsOf id) (Text.digitsOf bandwidth)) =
      .ok (String.ofList (slotted tileIndex id)) := by
  rw [substitute_media, readMedia, withSlot?_media]

theorem readRepresentation_tile (fits : presentation.Fits) (tile : Coordinate) {rung : Rung}
    (member : rung ∈ presentation.ladder) :
    readRepresentation (presentation.declaredRung (presentation.number tile) rung)
        (presentation.declaredTile tile).template true =
      .ok (representation (presentation.number tile) rung) := by
  obtain ⟨idSmall, bandwidthSmall⟩ := fits.rungs rung member
  have idFound : ("id", Text.digitsOf rung.id) ∈ presentation.rungEntries rung := by
    simp only [rungEntries, List.mem_cons, true_or]
  have bandwidthFound : ("bandwidth", Text.digitsOf rung.bandwidth) ∈
      presentation.rungEntries rung := by
    simp only [rungEntries, List.mem_cons, true_or, or_true]
  have mediaFound : ("media", pathStem (presentation.number tile) "$RepresentationID$".toList ++
      "$Number$.m4s".toList) ∈ tileTemplateEntries (presentation.number tile) := by
    simp only [tileTemplateEntries, templateEntries, List.mem_cons, true_or, or_true]
  have initializationFound : ("initialization", pathStem (presentation.number tile)
      "$RepresentationID$".toList ++ "init.mp4".toList) ∈
        tileTemplateEntries (presentation.number tile) := by
    simp only [tileTemplateEntries, templateEntries, List.mem_cons, true_or, or_true]
  have read := readRepresentation_of_found
    (value?_of_mem (keys_rung rung) idFound) (value?_of_mem (keys_rung rung) bandwidthFound)
    (template_tile tile rung) (value?_of_mem (keys_tileTemplate _) mediaFound)
    (value?_of_mem (keys_tileTemplate _) initializationFound)
    (readMedia_tile (presentation.number tile) rung.id rung.bandwidth) idSmall bandwidthSmall
  rw [read, substitute_initialization, String.ofList_toList]
  rfl

theorem readVideoSet_tile (fits : presentation.Fits) {tile : Coordinate}
    (inside : tile ∈ tiles presentation.grid) :
    readVideoSet presentation.grid (presentation.declaredTile tile) =
      .ok (presentation.videoSet tile) := by
  obtain ⟨column, row⟩ := mem_tiles.mp inside
  have contained : presentation.grid.contains tile = true := by
    simp only [Grid.contains, column, row, decide_true, Bool.and_self]
  have width : presentation.tileExtent.width < 2 ^ 32 :=
    Nat.lt_of_le_of_lt (Nat.le_mul_of_pos_left _ fits.columns) fits.width
  have height : presentation.tileExtent.height < 2 ^ 32 :=
    Nat.lt_of_le_of_lt (Nat.le_mul_of_pos_left _ fits.rows) fits.height
  have widthRead : readExtent (presentation.declaredTile tile) "maxWidth" "width" = .ok _ :=
    readExtent_tile tile (by simp only [setEntries, List.mem_cons, true_or, or_true]) width
  have heightRead : readExtent (presentation.declaredTile tile) "maxHeight" "height" = .ok _ :=
    readExtent_tile tile (by simp only [setEntries, List.mem_cons, true_or, or_true]) height
  have some : (presentation.declaredTile tile).representations.isEmpty = false := by
    obtain ⟨rung, _, head⟩ := firstRung fits tile
    cases representations : (presentation.declaredTile tile).representations with
    | nil => simp [representations] at head
    | cons => rfl
  have representations : (presentation.declaredTile tile).representations.mapM
      (readRepresentation · (presentation.declaredTile tile).template true) =
        (.ok (presentation.videoSet tile).representations : Except ManifestError _) := by
    change (presentation.ladder.map _).mapM _ = _
    rw [List.mapM_map]
    exact mapM_of_forall fun rung member => readRepresentation_tile fits tile member
  simp only [readVideoSet, ofSet_tile fits inside, contained, widthRead, heightRead,
    codecs_tile fits, mimeType?_tile fits, some, representations, require, bind, Except.bind,
    Bool.false_eq_true, ↓reduceIte]
  rfl

theorem readMedia_track (bandwidth : Nat) :
    readMedia false (MediaTemplate.substitute "audio_$Number$.m4s".toList (Text.digitsOf 0)
      (Text.digitsOf bandwidth)) = .ok "audio_\x7b\x7d.m4s" := rfl

theorem readRepresentation_track {track : AudioTrack} (small : track.bandwidth < 2 ^ 64) :
    readRepresentation (declaredTrack track) none false =
      .ok (audioSet track).representation := by
  have idFound : ("id", Text.digitsOf 0) ∈ audioEntries track := List.mem_cons_self
  have bandwidthFound : ("bandwidth", Text.digitsOf track.bandwidth) ∈ audioEntries track := by
    simp only [audioEntries, List.mem_cons, true_or, or_true]
  have mediaFound : ("media", "audio_$Number$.m4s".toList) ∈
      templateEntries audioInitializationPath.toList "audio_$Number$.m4s".toList := by
    simp only [templateEntries, List.mem_cons, true_or, or_true]
  have initializationFound : ("initialization", audioInitializationPath.toList) ∈
      templateEntries audioInitializationPath.toList "audio_$Number$.m4s".toList := by
    simp only [templateEntries, List.mem_cons, true_or, or_true]
  have keys := keys_template audioInitializationPath.toList "audio_$Number$.m4s".toList
  have read : readRepresentation (declaredTrack track) none false = _ := readRepresentation_of_found
    (value?_of_mem (keys_audio track) idFound) (value?_of_mem (keys_audio track) bandwidthFound)
    Option.some_or (value?_of_mem keys mediaFound)
    (value?_of_mem keys initializationFound) (readMedia_track track.bandwidth) (by decide) small
  exact read

theorem readAudioSet_track {track : AudioTrack}
    (fits : track.sampleRate < 2 ^ 32 ∧ track.bandwidth < 2 ^ 64) :
    readAudioSet (declaredAudio track) = .ok (audioSet track) := by
  have rateFound : ("audioSamplingRate", Text.digitsOf track.sampleRate) ∈ audioEntries track := by
    simp only [audioEntries, List.mem_cons, true_or, or_true]
  have codecsFound : ("codecs", track.codecs.toList) ∈ audioEntries track := by
    simp only [audioEntries, List.mem_cons, true_or, or_true]
  have rate : (declaredAudio track).inherited? "audioSamplingRate" = _ :=
    inherited?_of_first rfl (value?_of_mem (keys_audio track) rateFound)
  have codecs : (declaredAudio track).inherited? "codecs" = _ :=
    inherited?_of_first rfl (value?_of_mem (keys_audio track) codecsFound)
  rw [String.ofList_toList] at codecs
  have representation : readRepresentation _ (declaredAudio track).template false = _ :=
    readRepresentation_track fits.2
  have head : (declaredAudio track).representations.head? = some _ := rfl
  simp only [readAudioSet, head, rate, codecs, mimeType?_audio, representation, require, bind,
    Except.bind, numberAttribute_digits "audioSamplingRate" fits.1, Option.getD_some]
  rfl

end TiledStream.Presentation
