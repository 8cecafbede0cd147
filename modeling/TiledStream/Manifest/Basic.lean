import TiledStream.Duration
import TiledStream.Grid
import TiledStream.Text.Unsigned

/-! Manifests of tiled presentations: a grid of video sets in raster order and perhaps an audio
set. -/

namespace TiledStream

structure Representation where
  id : Nat
  bandwidth : Nat
  /-- Path of a media segment, with a slot in braces for its number. -/
  media : String
  initialization : String
  deriving DecidableEq

def greatestWidth : Nat := 65535

def slotWidth (slot : List Char) : Nat :=
  match slot with
  | ':' :: '0' :: width => (Text.readUnsigned? 64 width).getD 0
  | _ => 0

def splitSlot? (template : List Char) : Option (List Char × List Char × List Char) :=
  match template.dropWhile (· != '{') with
  | _ :: rest =>
    match rest.dropWhile (· != '}') with
    | _ :: after =>
      some (template.takeWhile (· != '{'), rest.takeWhile (· != '}'), after)
    | [] => none
  | [] => none

def fillSlot (template : List Char) (number : Nat) : Except Fault (List Char) :=
  match splitSlot? template with
  | some (before, slot, after) =>
    if greatestWidth < slotWidth slot then .error .overflow
    else .ok (before ++ Text.padded (slotWidth slot) number ++ after)
  | none => .ok template

def Representation.mediaPath (representation : Representation) (segment : Nat) :
    Except Fault String :=
  (fillSlot representation.media.toList segment).map String.ofList

structure VideoSet where
  tile : Coordinate
  extent : Extent
  codecs : String
  mimeType : String
  representations : List Representation
  deriving DecidableEq

def VideoSet.representation (set : VideoSet) (index : Nat) : Except Fault Representation :=
  elementAt set.representations index

structure AudioSet where
  codecs : String
  mimeType : String
  sampleRate : Nat
  representation : Representation
  deriving DecidableEq

structure Manifest where
  title : String
  presentationDuration : Option Duration
  minBufferTime : Option Duration
  maxSegmentDuration : Option Duration
  grid : Grid
  frameExtent : Extent
  videoSets : List VideoSet
  audioSet : Option AudioSet
  deriving DecidableEq

namespace Manifest

def tileExtent (manifest : Manifest) : Extent where
  width := manifest.frameExtent.width / max manifest.grid.columns 1
  height := manifest.frameExtent.height / max manifest.grid.rows 1

def tileCount (manifest : Manifest) : Nat := manifest.grid.columns * manifest.grid.rows

def checkInside (grid : Grid) (tile : Coordinate) : Except Fault Unit :=
  if grid.contains tile then .ok ()
  else .error (.outsideGrid tile.x tile.y grid.columns grid.rows)

def videoSet (manifest : Manifest) (tile : Coordinate) : Except Fault VideoSet := do
  checkInside manifest.grid tile
  let index ← tile.rasterIndex manifest.grid.columns
  elementAt manifest.videoSets index

def tileIndex (manifest : Manifest) (tile : Coordinate) : Except Fault Nat :=
  tile.tileIndex manifest.grid.columns

def tileCoordinate (manifest : Manifest) (index : Nat) : Except Fault Coordinate :=
  Coordinate.ofTileIndex index manifest.grid.columns

def coordinates (manifest : Manifest) : List Coordinate := manifest.videoSets.map (·.tile)

end Manifest

end TiledStream
