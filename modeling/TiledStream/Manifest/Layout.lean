import TiledStream.Manifest.Basic
import TiledStream.Manifest.Declaration
import TiledStream.Manifest.MediaTemplate

/-! From declared sets to the sets of a manifest: each is checked by itself, and the video sets take
their places on the grid. -/

namespace TiledStream

def require {α : Type} (error : ManifestError) : Option α → Except ManifestError α
  | some value => .ok value
  | none => .error error

def numberAttribute (bits : Nat) (key value : String) : Except ManifestError Nat :=
  require (.invalidValue key value) (Text.readUnsigned? bits (Text.trim value.toList))

structure SpatialDescription where
  tile : Coordinate
  total : Grid
  deriving DecidableEq

namespace SpatialDescription

def fields? (value : List Char) : Option (List Nat) :=
  (value.splitOn ',').mapM fun field => Text.readUnsigned? 32 (Text.trim field)

/-- Seven numbers begin with a source identifier, six do without it. -/
def ofFields? : List Nat → Option SpatialDescription
  | [_, x, y, _, _, columns, rows] => some { tile := { x, y }, total := { columns, rows } }
  | [x, y, _, _, columns, rows] => some { tile := { x, y }, total := { columns, rows } }
  | _ => none

def read (value : String) : Except ManifestError SpatialDescription :=
  require (.invalidValue "SupplementalProperty@value" value)
    ((fields? value.toList).bind ofFields?)

def ofSet (set : DeclaredSet) : Except ManifestError SpatialDescription := do
  let value ← require (.missingElement "SupplementalProperty") set.spatialDescription?
  read value

end SpatialDescription

/-- The grid that the first of some video sets claims. It has no more tiles than there are sets. -/
def readGrid (first : DeclaredSet) (sets : Nat) : Except ManifestError Grid := do
  let total := (← SpatialDescription.ofSet first).total
  if total.columns = 0 ∨ total.rows = 0 then .error (.layout (.emptyGrid total))
  else if total.columns * total.rows < 2 ^ 32 ∧ total.columns * total.rows ≤ sets then .ok total
  else .error (.layout (.tooFewSets total sets))

def representationAttribute (attributes : Markup.Attributes) (key : String) :
    Except ManifestError String :=
  require (.missingAttribute "Representation" key) (attributes.value? key)

def templateAttribute (attributes : Markup.Attributes) (key : String) :
    Except ManifestError String :=
  require (.missingAttribute "SegmentTemplate" key) (attributes.value? key)

def readMedia (numbered : Bool) (path : List Char) : Except ManifestError String :=
  match MediaTemplate.withSlot? path with
  | some media => .ok (String.ofList media)
  | none =>
    if numbered then .error (.invalidValue "SegmentTemplate@media" (String.ofList path))
    else .ok (String.ofList path)

def readRepresentation (declared : DeclaredRepresentation)
    (setTemplate : Option Markup.Attributes) (numbered : Bool) :
    Except ManifestError Representation := do
  let id ← representationAttribute declared.attributes "id"
  let bandwidth ← representationAttribute declared.attributes "bandwidth"
  let template ← require (.missingElement "SegmentTemplate") (declared.template.or setTemplate)
  let media ← templateAttribute template "media"
  let initialization ← templateAttribute template "initialization"
  let substitute (path : String) := MediaTemplate.substitute path.toList id.toList bandwidth.toList
  let slotted ← readMedia numbered (substitute media)
  let idNumber ← numberAttribute 32 "id" id
  let bandwidthNumber ← numberAttribute 64 "bandwidth" bandwidth
  pure {
    id := idNumber
    bandwidth := bandwidthNumber
    media := slotted
    initialization := String.ofList (substitute initialization) }

/-- An extent of a set is its greatest one or else that of its first representation. -/
def readExtent (set : DeclaredSet) (greatest own : String) : Except ManifestError Nat := do
  let value ← require (.missingAttribute "AdaptationSet" greatest)
    ((set.attributes.value? greatest).or (set.inherited? own))
  numberAttribute 32 greatest value

def readVideoSet (grid : Grid) (set : DeclaredSet) : Except ManifestError VideoSet := do
  let tile := (← SpatialDescription.ofSet set).tile
  if grid.contains tile then do
    let width ← readExtent set "maxWidth" "width"
    let height ← readExtent set "maxHeight" "height"
    let codecs ← require (.missingAttribute "Representation" "codecs") (set.inherited? "codecs")
    let mimeType ← require (.missingAttribute "Representation" "mimeType") set.mimeType?
    if set.representations.isEmpty then .error (.missingElement "Representation")
    else do
      let representations ← set.representations.mapM fun declared =>
        readRepresentation declared set.template true
      pure { tile, extent := { width, height }, codecs, mimeType, representations }
  else .error (.layout (.outside tile grid))

def readAudioSet (set : DeclaredSet) : Except ManifestError AudioSet := do
  let first ← require (.missingElement "Representation") set.representations.head?
  let rate ← require (.missingAttribute "Representation" "audioSamplingRate")
    (set.inherited? "audioSamplingRate")
  let sampleRate ← numberAttribute 32 "audioSamplingRate" rate
  let representation ← readRepresentation first set.template false
  pure {
    codecs := (set.inherited? "codecs").getD ""
    mimeType := set.mimeType?.getD ""
    sampleRate
    representation }

def orManifestError {α : Type} : Except ManifestError α → Except Failure α
  | .ok value => .ok value
  | .error error => .error (.error (.manifest error))

def placeSet (grid : Grid) (slots : List (Option VideoSet)) (declared : DeclaredSet) :
    Except Failure (List (Option VideoSet)) := do
  let set ← orManifestError (readVideoSet grid declared)
  let index ← orFault (set.tile.rasterIndex grid.columns)
  match slots[index]? with
  | some none => .ok (slots.set index (some set))
  | some (some _) => .error (.error (.manifest (.layout (.repeated set.tile))))
  | none => .error (.fault .outOfRange)

def takeSlots (grid : Grid) (index : Nat) : List (Option VideoSet) → Except Failure (List VideoSet)
  | [] => .ok []
  | some set :: rest => do
    let following ← takeSlots grid (index + 1) rest
    pure (set :: following)
  | none :: _ => do
    let number ← orFault (fitWord 32 (index + 1))
    let tile ← orFault (Coordinate.ofTileIndex number grid.columns)
    .error (.error (.manifest (.layout (.missing tile))))

def placeSets (grid : Grid) (sets : List DeclaredSet) : Except Failure (List VideoSet) := do
  let tiles ← orFault (fitWord 32 (grid.columns * grid.rows))
  let slots ← sets.foldlM (placeSet grid) (List.replicate tiles none)
  takeSlots grid 0 slots

def readFrameExtent (grid : Grid) (sets : List VideoSet) : Except Fault Extent := do
  let width ← fitWord 64 (sets.map (·.extent.width)).sum
  let height ← fitWord 64 (sets.map (·.extent.height)).sum
  if grid.columns = 0 ∨ grid.rows = 0 then .error .zeroDivision
  else .ok { width := width / grid.rows % 2 ^ 32, height := height / grid.columns % 2 ^ 32 }

def Duration.read (value : String) : Except Failure Duration := do
  match ← orFault (Duration.parse value.toList) with
  | some duration => pure duration
  | none => .error (.error (.manifest (.duration value)))

def readDuration (root : Markup.Attributes) (key : String) : Except Failure (Option Duration) :=
  (root.value? key).mapM Duration.read

namespace Manifest

/-- Checks a declaration. The first audio set counts and all video sets do. -/
def ofDeclaration (declaration : Declaration) : Except Failure Manifest := do
  let root ← orManifestError (require (.missingElement "MPD") declaration.root)
  let presentationDuration ← readDuration root "mediaPresentationDuration"
  let minBufferTime ← readDuration root "minBufferTime"
  let maxSegmentDuration ← readDuration root "maxSegmentDuration"
  let audio := declaration.sets.filter (·.isAudio)
  let video := declaration.sets.filter fun set => !set.isAudio
  let first ← orManifestError (require (.missingElement "AdaptationSet") video.head?)
  let grid ← orManifestError (readGrid first video.length)
  let videoSets ← placeSets grid video
  let audioSet ← orManifestError (audio.head?.mapM readAudioSet)
  let frameExtent ← orFault (readFrameExtent grid videoSets)
  pure {
    title := declaration.title.getD ""
    presentationDuration
    minBufferTime
    maxSegmentDuration
    grid
    frameExtent
    videoSets
    audioSet }

def parse (document : String) : Except Failure Manifest := do
  let declaration ← match Declaration.read document.toList with
    | .ok declaration => .ok declaration
    | .error error => .error (.error (.manifest (.markup error)))
  ofDeclaration declaration

end Manifest

end TiledStream
