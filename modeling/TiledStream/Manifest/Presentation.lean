import TiledStream.Duration
import TiledStream.Grid
import TiledStream.Markup.Writer

/-! A tiled presentation as its publisher describes it, and the manifest document that declares it.
Every tile has the same extent, codecs and ladder of representations. -/

namespace TiledStream

structure Rung where
  id : Nat
  bandwidth : Nat
  deriving DecidableEq

structure AudioTrack where
  codecs : String
  sampleRate : Nat
  bandwidth : Nat
  deriving DecidableEq

structure Presentation where
  title : String
  grid : Grid
  tileExtent : Extent
  codecs : String
  presentationDuration : Option Duration
  minBufferTime : Option Duration
  maxSegmentDuration : Option Duration
  /-- Templates stand in each representation, or else once in each set. -/
  inlineTemplates : Bool
  ladder : List Rung
  audio : Option AudioTrack
  deriving DecidableEq

namespace Presentation

open Markup (Piece)

def tiled (columns rows : Nat) : Presentation where
  title := ""
  grid := { columns, rows }
  tileExtent := { width := 640, height := 640 }
  codecs := "hvc1.1.6.L93.90"
  presentationDuration := none
  minBufferTime := none
  maxSegmentDuration := none
  inlineTemplates := false
  ladder := []
  audio := none

def pathStem (tileIndex : Nat) (representation : List Char) : List Char :=
  "tile".toList ++ Text.digitsOf tileIndex ++ "_rep".toList ++ representation ++ ['_']

def mediaPath (tileIndex id segment : Nat) : String :=
  String.ofList
    (pathStem tileIndex (Text.digitsOf id) ++ Text.digitsOf segment ++ ".m4s".toList)

def initializationPath (tileIndex id : Nat) : String :=
  String.ofList (pathStem tileIndex (Text.digitsOf id) ++ "init.mp4".toList)

def audioMediaPath (segment : Nat) : String :=
  String.ofList ("audio_".toList ++ Text.digitsOf segment ++ ".m4s".toList)

def audioInitializationPath : String := "audio_init.mp4"

def template (initialization media : List Char) : Piece :=
  .empty "SegmentTemplate" [
    ("timescale", "1000".toList),
    ("duration", "1000".toList),
    ("startNumber", "1".toList),
    ("initialization", initialization),
    ("media", media)]

def tileTemplate (tileIndex : Nat) : Piece :=
  let stem := pathStem tileIndex "$RepresentationID$".toList
  template (stem ++ "init.mp4".toList) (stem ++ "$Number$.m4s".toList)

def rungPieces (presentation : Presentation) (shared : Piece) (rung : Rung) : List Piece :=
  let attributes := [
    ("id", Text.digitsOf rung.id),
    ("mimeType", "video/mp4".toList),
    ("codecs", presentation.codecs.toList),
    ("width", Text.digitsOf presentation.tileExtent.width),
    ("height", Text.digitsOf presentation.tileExtent.height),
    ("bandwidth", Text.digitsOf rung.bandwidth)]
  if presentation.inlineTemplates then Markup.element "Representation" attributes [shared]
  else [.empty "Representation" attributes]

def spatialValue (grid : Grid) (tile : Coordinate) : List Char :=
  [','].intercalate ([0, tile.x, tile.y, 1, 1, grid.columns, grid.rows].map Text.digitsOf)

def tilePieces (presentation : Presentation) (tile : Coordinate) : Except Fault (List Piece) := do
  let tileIndex ← tile.tileIndex presentation.grid.columns
  let shared := tileTemplate tileIndex
  let property : Piece := .empty "SupplementalProperty" [
    ("schemeIdUri", "urn:mpeg:dash:srd:2014".toList),
    ("value", spatialValue presentation.grid tile)]
  let rungs := presentation.ladder.flatMap (presentation.rungPieces shared)
  pure (Markup.element "AdaptationSet" [
      ("segmentAlignment", "true".toList),
      ("maxWidth", Text.digitsOf presentation.tileExtent.width),
      ("maxHeight", Text.digitsOf presentation.tileExtent.height)]
    (property :: (if presentation.inlineTemplates then rungs else shared :: rungs)))

def audioPieces (track : AudioTrack) : List Piece :=
  Markup.element "AdaptationSet" [("segmentAlignment", "true".toList), ("lang", "und".toList)]
    (Markup.element "Representation" [
        ("id", "0".toList),
        ("mimeType", "audio/mp4".toList),
        ("codecs", track.codecs.toList),
        ("audioSamplingRate", Text.digitsOf track.sampleRate),
        ("bandwidth", Text.digitsOf track.bandwidth)]
      [template audioInitializationPath.toList "audio_$Number$.m4s".toList])

def tiles (grid : Grid) : List Coordinate :=
  (List.range grid.rows).flatMap fun y => (List.range grid.columns).map fun x => { x, y }

def durationAttribute (key : String) (duration : Option Duration) : List (String × List Char) :=
  match duration with
  | some duration => [(key, duration.write)]
  | none => []

def pieces (presentation : Presentation) : Except Fault (List Piece) := do
  let sets ← (tiles presentation.grid).mapM presentation.tilePieces
  let root := [
      ("xmlns", "urn:mpeg:dash:schema:mpd:2011".toList),
      ("type", "static".toList),
      ("profiles", "urn:mpeg:dash:profile:isoff-live:2011".toList)] ++
    durationAttribute "mediaPresentationDuration" presentation.presentationDuration ++
    durationAttribute "minBufferTime" presentation.minBufferTime ++
    durationAttribute "maxSegmentDuration" presentation.maxSegmentDuration
  let audio := (presentation.audio.map audioPieces).getD []
  pure (Markup.element "MPD" root
    (Markup.element "ProgramInformation" []
        (Markup.element "Title" [] [.text presentation.title.toList]) ++
      Markup.element "Period" [] (sets.flatten ++ audio)))

def write (presentation : Presentation) : Except Fault String :=
  presentation.pieces.map fun pieces => String.ofList (Markup.write pieces)

end Presentation

end TiledStream
