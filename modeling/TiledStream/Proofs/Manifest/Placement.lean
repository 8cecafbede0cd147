import TiledStream.Manifest.Layout
import TiledStream.Proofs.Exchange
import TiledStream.Proofs.Traverse

/-! Every video set of a manifest that was read stands at the raster position of its tile. -/

namespace TiledStream

namespace Manifest

/-- Video sets fill the grid in raster order, and each has a representation. -/
structure Placed (manifest : Manifest) : Prop where
  columns : 0 < manifest.grid.columns
  rows : 0 < manifest.grid.rows
  small : manifest.tileCount < 2 ^ 32
  size : manifest.videoSets.length = manifest.tileCount
  inside : ∀ (raster : Nat) (video : VideoSet), manifest.videoSets[raster]? = some video →
    manifest.grid.contains video.tile = true ∧
      video.tile.rasterIndex manifest.grid.columns = .ok raster
  represented : ∀ video ∈ manifest.videoSets, video.representations ≠ []

theorem Placed.videoSet_tile {manifest : Manifest} (placed : manifest.Placed) {raster : Nat}
    {video : VideoSet} (found : manifest.videoSets[raster]? = some video) :
    manifest.videoSet video.tile = .ok video := by
  obtain ⟨inside, at_raster⟩ := placed.inside raster video found
  simp [videoSet, checkInside, inside, at_raster, elementAt, found, bind, Except.bind]

end Manifest

theorem orManifestError_eq_ok {Value : Type} {value : Except ManifestError Value} {result : Value}
    (ran : orManifestError value = .ok result) : value = .ok result := by
  cases value with
  | error error => simp [orManifestError] at ran
  | ok item =>
      obtain rfl : item = result := Except.ok.inj ran
      rfl

theorem require_eq_ok {Value : Type} {error : ManifestError} {found : Option Value} {value : Value}
    (required : require error found = .ok value) : found = some value := by
  cases found with
  | none => cases required
  | some other => rw [Except.ok.inj required]

theorem readGrid_eq_ok {first : DeclaredSet} {sets : Nat} {grid : Grid}
    (read : readGrid first sets = .ok grid) :
    0 < grid.columns ∧ 0 < grid.rows ∧ grid.columns * grid.rows < 2 ^ 32 ∧
      grid.columns * grid.rows ≤ sets := by
  unfold readGrid at read
  obtain ⟨description, _, read⟩ := bind_eq_ok read
  dsimp only at read
  split at read
  · simp at read
  · rename_i positive
    split at read
    · rename_i enough
      obtain rfl := Except.ok.inj read
      omega
    · simp at read

structure VideoSet.MadeOf (grid : Grid) (declared : DeclaredSet) (video : VideoSet) : Prop where
  described : (SpatialDescription.ofSet declared).map (·.tile) = .ok video.tile
  inside : grid.contains video.tile = true
  width : readExtent declared "maxWidth" "width" = .ok video.extent.width
  height : readExtent declared "maxHeight" "height" = .ok video.extent.height
  codecs : declared.inherited? "codecs" = some video.codecs
  mimeType : declared.mimeType? = some video.mimeType
  declares : declared.representations ≠ []
  representations : declared.representations.mapM (readRepresentation · declared.template true) =
    .ok video.representations

theorem VideoSet.madeOf {grid : Grid} {declared : DeclaredSet} {video : VideoSet}
    (read : readVideoSet grid declared = .ok video) : video.MadeOf grid declared := by
  unfold readVideoSet at read
  obtain ⟨description, described, read⟩ := bind_eq_ok read
  dsimp only at read
  split at read
  · rename_i inside
    obtain ⟨width, widthRead, read⟩ := bind_eq_ok read
    obtain ⟨height, heightRead, read⟩ := bind_eq_ok read
    obtain ⟨codecs, codecsFound, read⟩ := bind_eq_ok read
    obtain ⟨mimeType, typeFound, read⟩ := bind_eq_ok read
    split at read
    · simp at read
    · rename_i someRepresentation
      obtain ⟨representations, mapped, read⟩ := bind_eq_ok read
      obtain rfl := Except.ok.inj read
      exact {
        described := by rw [described]; rfl
        inside
        width := widthRead
        height := heightRead
        codecs := require_eq_ok codecsFound
        mimeType := require_eq_ok typeFound
        declares := by simpa using someRepresentation
        representations := mapped }
  · simp at read

theorem VideoSet.MadeOf.represented {grid : Grid} {declared : DeclaredSet} {video : VideoSet}
    (made : video.MadeOf grid declared) : video.representations ≠ [] := by
  intro none
  have length := (mapM_eq_ok made.representations).1
  rw [none, List.length_nil, eq_comm, List.length_eq_zero_iff] at length
  exact made.declares length

def Settled (grid : Grid) (tiles : Nat) (slots : List (Option VideoSet)) : Prop :=
  slots.length = tiles ∧ ∀ (raster : Nat) (video : VideoSet), slots[raster]? = some (some video) →
    grid.contains video.tile = true ∧ video.tile.rasterIndex grid.columns = .ok raster ∧
      video.representations ≠ []

theorem settled_start (grid : Grid) (tiles : Nat) :
    Settled grid tiles (List.replicate tiles none) := by
  refine ⟨List.length_replicate, ?_⟩
  intro raster video found
  have member := List.mem_of_getElem? found
  simp [List.mem_replicate] at member

theorem settled_place {grid : Grid} {tiles : Nat} {slots next : List (Option VideoSet)}
    {declared : DeclaredSet} (settled : Settled grid tiles slots)
    (placed : placeSet grid slots declared = .ok next) : Settled grid tiles next := by
  unfold placeSet at placed
  obtain ⟨video, read, placed⟩ := bind_eq_ok placed
  obtain ⟨index, indexed, placed⟩ := bind_eq_ok placed
  have made := VideoSet.madeOf (orManifestError_eq_ok read)
  split at placed
  · rename_i free
    obtain rfl := Except.ok.inj placed
    refine ⟨by rw [List.length_set]; exact settled.1, ?_⟩
    intro raster other found
    rcases found_of_set found with ⟨rfl, same⟩ | ⟨_, before⟩
    · obtain rfl := Option.some.inj same
      exact ⟨made.inside, orFault_eq_ok indexed, made.represented⟩
    · exact settled.2 raster other before
  · simp at placed
  · simp at placed

theorem settled_of_foldlM {grid : Grid} {tiles : Nat} {sets : List DeclaredSet}
    {slots : List (Option VideoSet)}
    (folded : sets.foldlM (placeSet grid) (List.replicate tiles none) = .ok slots) :
    Settled grid tiles slots :=
  foldlM_keeps (fun _ _ _ settled placed => settled_place settled placed)
    (settled_start grid tiles) folded

theorem takeSlots_eq_ok {grid : Grid} {index : Nat} {slots : List (Option VideoSet)}
    {videoSets : List VideoSet} (taken : takeSlots grid index slots = .ok videoSets) :
    slots = videoSets.map some := by
  induction slots generalizing index videoSets with
  | nil =>
      obtain rfl : [] = videoSets := Except.ok.inj taken
      rfl
  | cons slot slots ih =>
      cases slot with
      | none =>
          obtain ⟨number, _, taken⟩ := bind_eq_ok taken
          obtain ⟨tile, _, taken⟩ := bind_eq_ok taken
          simp at taken
      | some video =>
          obtain ⟨rest, others, taken⟩ := bind_eq_ok taken
          obtain rfl : video :: rest = videoSets := Except.ok.inj taken
          rw [ih others]
          rfl

theorem placeSets_eq_ok {grid : Grid} {sets : List DeclaredSet} {videoSets : List VideoSet}
    (placed : placeSets grid sets = .ok videoSets) :
    Settled grid (grid.columns * grid.rows) (videoSets.map some) := by
  unfold placeSets at placed
  obtain ⟨tiles, counted, placed⟩ := bind_eq_ok placed
  obtain ⟨slots, folded, taken⟩ := bind_eq_ok placed
  obtain ⟨_, rfl⟩ := (fitWord_eq_ok_iff _ _ _).mp (orFault_eq_ok counted)
  rw [← takeSlots_eq_ok taken]
  exact settled_of_foldlM folded

theorem length_of_placeSets {grid : Grid} {sets : List DeclaredSet} {videoSets : List VideoSet}
    (placed : placeSets grid sets = .ok videoSets) : videoSets.length = grid.columns * grid.rows := by
  simpa using (placeSets_eq_ok placed).1

theorem Manifest.parse_eq_ok {document : String} {manifest : Manifest}
    (parsed : Manifest.parse document = .ok manifest) :
    ∃ declaration, Declaration.read document.toList = .ok declaration ∧
      Manifest.ofDeclaration declaration = .ok manifest := by
  unfold Manifest.parse at parsed
  cases read : Declaration.read document.toList with
  | error error => simp [read, bind, Except.bind] at parsed
  | ok declaration =>
      rw [read] at parsed
      exact ⟨declaration, rfl, parsed⟩

theorem Manifest.parse_of_read {document : String} {declaration : Declaration}
    (read : Declaration.read document.toList = .ok declaration) :
    Manifest.parse document = Manifest.ofDeclaration declaration := by
  unfold Manifest.parse
  rw [read]
  rfl

structure Manifest.MadeOf (manifest : Manifest) (root : Markup.Attributes) (title : Option String)
    (sets : List DeclaredSet) (leading : DeclaredSet) : Prop where
  title : manifest.title = title.getD ""
  presentationDuration :
    readDuration root "mediaPresentationDuration" = .ok manifest.presentationDuration
  minBufferTime : readDuration root "minBufferTime" = .ok manifest.minBufferTime
  maxSegmentDuration : readDuration root "maxSegmentDuration" = .ok manifest.maxSegmentDuration
  first : (sets.filter fun set => !set.isAudio).head? = some leading
  grid : readGrid leading (sets.filter fun set => !set.isAudio).length = .ok manifest.grid
  videoSets : placeSets manifest.grid (sets.filter fun set => !set.isAudio) = .ok manifest.videoSets
  audioSet : (sets.filter (·.isAudio)).head?.mapM readAudioSet = .ok manifest.audioSet
  frameExtent : readFrameExtent manifest.grid manifest.videoSets = .ok manifest.frameExtent

theorem Manifest.madeOf {declaration : Declaration} {manifest : Manifest}
    (made : Manifest.ofDeclaration declaration = .ok manifest) :
    ∃ root first, declaration.root = some root ∧
      manifest.MadeOf root declaration.title declaration.sets first := by
  unfold Manifest.ofDeclaration at made
  obtain ⟨root, rooted, made⟩ := bind_eq_ok made
  obtain ⟨presentationDuration, firstDuration, made⟩ := bind_eq_ok made
  obtain ⟨minBufferTime, secondDuration, made⟩ := bind_eq_ok made
  obtain ⟨maxSegmentDuration, thirdDuration, made⟩ := bind_eq_ok made
  obtain ⟨first, found, made⟩ := bind_eq_ok made
  obtain ⟨grid, gridRead, made⟩ := bind_eq_ok made
  obtain ⟨videoSets, placed, made⟩ := bind_eq_ok made
  obtain ⟨audioSet, audioRead, made⟩ := bind_eq_ok made
  obtain ⟨frameExtent, divided, made⟩ := bind_eq_ok made
  obtain rfl := Except.ok.inj made
  exact ⟨root, first, require_eq_ok (orManifestError_eq_ok rooted), {
    title := rfl
    presentationDuration := firstDuration
    minBufferTime := secondDuration
    maxSegmentDuration := thirdDuration
    first := require_eq_ok (orManifestError_eq_ok found)
    grid := orManifestError_eq_ok gridRead
    videoSets := placed
    audioSet := orManifestError_eq_ok audioRead
    frameExtent := orFault_eq_ok divided }⟩

theorem Manifest.MadeOf.ofDeclaration {manifest : Manifest} {root : Markup.Attributes}
    {title : Option String} {sets : List DeclaredSet} {leading : DeclaredSet}
    (made : manifest.MadeOf root title sets leading) :
    Manifest.ofDeclaration { root := some root, title, sets } = .ok manifest := by
  simp only [Manifest.ofDeclaration, require, orManifestError, orFault, ← made.title,
    made.presentationDuration, made.minBufferTime, made.maxSegmentDuration, made.first, made.grid,
    made.videoSets, made.audioSet, made.frameExtent, bind, Except.bind, pure, Except.pure]

theorem Manifest.laidOut_of_parse {document : String} {manifest : Manifest}
    (parsed : Manifest.parse document = .ok manifest) :
    ∃ first sets, readGrid first sets.length = .ok manifest.grid ∧
      placeSets manifest.grid sets = .ok manifest.videoSets ∧
      readFrameExtent manifest.grid manifest.videoSets = .ok manifest.frameExtent := by
  obtain ⟨declaration, _, made⟩ := parse_eq_ok parsed
  obtain ⟨root, first, _, made⟩ := madeOf made
  exact ⟨first, _, made.grid, made.videoSets, made.frameExtent⟩

theorem Manifest.parse_placed {document : String} {manifest : Manifest}
    (parsed : Manifest.parse document = .ok manifest) : manifest.Placed := by
  obtain ⟨first, sets, gridRead, setsPlaced, _⟩ := laidOut_of_parse parsed
  obtain ⟨columns, rows, small, _⟩ := readGrid_eq_ok gridRead
  have stands := (placeSets_eq_ok setsPlaced).2
  have at_raster (raster : Nat) (video : VideoSet)
      (found : manifest.videoSets[raster]? = some video) :=
    stands raster video (by simp [found])
  exact {
    columns
    rows
    small
    size := length_of_placeSets setsPlaced
    inside := fun raster video found =>
      ⟨(at_raster raster video found).1, (at_raster raster video found).2.1⟩
    represented := fun video member => by
      obtain ⟨raster, found⟩ := List.mem_iff_getElem?.mp member
      exact (at_raster raster video found).2.2 }

end TiledStream
