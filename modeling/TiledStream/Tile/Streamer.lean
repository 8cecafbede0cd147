import TiledStream.Manifest.Basic
import TiledStream.Segment.Url
import TiledStream.Selection.Selector
import TiledStream.StreamError
import TiledStream.Text.Utf8

/-! Requests for the segments of one tile. Segments are numbered from one, and the initialization
segment of a representation is fetched once for each run of segments that use it. -/

namespace TiledStream

def traceCapacity : Nat := 120

structure Streamer where
  tile : Coordinate
  tileIndex : Nat
  nextSegment : Nat
  /-- Choices asked of the selector. -/
  asked : Nat
  /-- The representation used last, and the place of its initialization segment among the
  fetches. -/
  shared : Option (Nat × Nat)
  /-- Representations of the latest requests, the oldest first. -/
  trace : List Nat
  /-- Addresses fetched, the oldest first. -/
  fetches : List String
  deriving DecidableEq

structure SegmentRequest where
  segment : Nat
  representation : Nat
  initial : Nat
  media : Nat
  deriving DecidableEq

structure Buffers where
  segment : Nat
  representation : Nat
  initial : Bytes
  media : Bytes
  deriving DecidableEq

namespace Streamer

def start (tile : Coordinate) (tileIndex : Nat) : Streamer where
  tile
  tileIndex
  nextSegment := 1
  asked := 0
  shared := none
  trace := []
  fetches := []

def segmentsRequested (streamer : Streamer) : Nat := streamer.nextSegment - 1

/-- The place of a representation's initialization segment, which is fetched unless the last
request used it. -/
def shareInitial (streamer : Streamer) (index : Nat) (url : String) : Nat × Streamer :=
  match streamer.shared with
  | some (last, place) =>
    if last = index then (place, streamer)
    else
      (streamer.fetches.length,
        { streamer with
          shared := some (index, streamer.fetches.length)
          fetches := streamer.fetches ++ [url] })
  | none =>
    (streamer.fetches.length,
      { streamer with
        shared := some (index, streamer.fetches.length)
        fetches := streamer.fetches ++ [url] })

def remember (streamer : Streamer) (index : Nat) : Streamer :=
  let longer := streamer.trace ++ [index]
  { streamer with trace := longer.drop (longer.length - traceCapacity) }

def fetchSegment (streamer : Streamer) (manifestUrl : String) (index : Nat)
    (representation : Representation) : Except Failure SegmentRequest × Streamer :=
  let remembered := streamer.remember index
  let found := remembered.shareInitial index (Url.resolve manifestUrl representation.initialization)
  match representation.mediaPath streamer.nextSegment with
  | .error fault => (.error (.fault fault), found.2)
  | .ok path =>
    let request : SegmentRequest := {
      segment := streamer.nextSegment
      representation := index
      initial := found.1
      media := found.2.fetches.length }
    (.ok request,
      { found.2 with
        fetches := found.2.fetches ++ [Url.resolve manifestUrl path]
        nextSegment := streamer.nextSegment + 1 })

def request (streamer : Streamer) (manifest : Manifest) (manifestUrl : String)
    (choose : Selector) (cancelled : Bool) : Except Failure SegmentRequest × Streamer :=
  if cancelled then (.error (.error .aborted), streamer)
  else
    match manifest.videoSet streamer.tile with
    | .error fault => (.error (.fault fault), streamer)
    | .ok set =>
      let asking := { streamer with asked := streamer.asked + 1 }
      match choose streamer.tile streamer.asked set.representations.length with
      | .error fault => (.error (.fault fault), asking)
      | .ok choice =>
        let index := clampIndex choice set.representations.length
        match set.representation index with
        | .error fault => (.error (.fault fault), asking)
        | .ok representation => asking.fetchSegment manifestUrl index representation

end Streamer

namespace SegmentRequest

/-- Both parts of a segment, given the answers to the fetches. The media part comes first, and an
empty one is no segment. -/
def resolve (request : SegmentRequest) (answerAt : Nat → Except StreamError Bytes) :
    Except StreamError Buffers := do
  let media ← answerAt request.media
  if media.isEmpty then
    .error (.badResponse ("segment " ++ toString request.segment ++ " is empty"))
  else
    let initial ← answerAt request.initial
    pure { segment := request.segment, representation := request.representation, initial, media }

def await (request : SegmentRequest) (answerAt : Nat → Except StreamError Bytes)
    (cancelled : Bool) : Except StreamError Buffers :=
  if cancelled then .error .aborted else request.resolve answerAt

end SegmentRequest

end TiledStream
