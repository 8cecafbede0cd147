import TiledStream.Barrier.Basic
import TiledStream.Media.Decoder
import TiledStream.Metrics
import TiledStream.Queue.Basic
import TiledStream.Session.Phase
import TiledStream.Tile.Streamer

/-! A session: one worker for each tile of a manifest, which fetches, decodes and queues the tile's
frames, an owner that starts and stops them, and consumers that poll the queues. -/

namespace TiledStream

structure Plan where
  manifest : Manifest
  manifestUrl : String
  engine : Engine
  choose : Selector
  /-- The answer to a tile's fetch, by raster position of the tile and place of the fetch. -/
  answer : (raster place : Nat) → (url : String) → Except StreamError Bytes
  concurrency : Nat

structure TileStats where
  tileIndex : Nat
  segmentsRequested : Nat
  lastRepresentation : Option Nat
  deriving DecidableEq

structure Decoding (engine : Engine) where
  following : SegmentRequest
  buffers : Buffers
  source : FrameSource engine
  /-- Index of the next frame of the segment. -/
  index : Nat
  /-- Frames of the last round that are still to be queued. -/
  batch : List Frame

inductive Stage (engine : Engine) where
  | unstarted
  /-- Requests a segment, before it decodes the one at hand. -/
  | requesting (held : Option Buffers)
  | recording (request : SegmentRequest) (held : Option Buffers)
  | publishing (request : SegmentRequest) (held : Option Buffers)
  | waiting (request : SegmentRequest)
  | opening (following : SegmentRequest) (buffers : Buffers)
  | decoding (work : Decoding engine)
  | writing (work : Decoding engine) (frame : Frame)
  | counting (work : Decoding engine)
  | promoting (work : Decoding engine)
  /-- Ends its stream with an error. -/
  | ending (error : StreamError)
  /-- Queues an end marker, and then perhaps stops the whole session. -/
  | marking (event : TileEvent) (fatal : Bool)
  | draining (drain : Drain)
  /-- Counts itself as exited, on every way out. -/
  | exiting
  | leaving
  | gone

inductive Consumer where
  | idle
  | taking
  | counting
  deriving DecidableEq

structure TileState (engine : Engine) where
  tile : Coordinate
  extent : Extent
  streamer : Streamer
  stage : Stage engine
  queue : BoundedQueue TileEvent
  /-- Every event queued so far, the oldest first. -/
  history : List TileEvent
  stats : TileStats
  consumer : Consumer

inductive Owner where
  | idle
  /-- Prefetching: found a created session. -/
  | swapping
  | starting (raster : Nat)
  /-- A worker did not start: its exit is counted and it leaves the barrier. -/
  | discarding (raster : Nat)
  | dropping (raster : Nat)
  | withdrawing (raster : Nat) (drain : Drain)
  /-- Leaves the barrier for workers that are not to be started. -/
  | releasing (left : Nat)
  /-- Shutting down. -/
  | retiring (drain : Drain)
  | arriving
  | parked (generation : Nat)
  | woken (generation : Nat)
  | closing
  | joining
  deriving DecidableEq

structure Session (plan : Plan) where
  phase : Phase
  cancelled : Bool
  /-- Some stream has ended. -/
  terminated : Bool
  exited : Nat
  barrier : Barrier
  /-- Whether the owner still has to meet the workers at the barrier. -/
  holdsBarrier : Bool
  /-- Workers that the owner has started and not joined. -/
  workers : Nat
  metrics : Metrics
  tiles : List (TileState plan.engine)
  owner : Owner
  /-- How the owner's last call ended. -/
  returned : Except StreamError Unit

namespace TileState

variable {engine : Engine}

def start (tile : Coordinate) (extent : Extent) (tileIndex : Nat) : TileState engine where
  tile
  extent
  streamer := Streamer.start tile tileIndex
  stage := .unstarted
  queue := { capacity := BoundedQueue.eventCapacity, items := [] }
  history := []
  stats := { tileIndex, segmentsRequested := 0, lastRepresentation := none }
  consumer := .idle

def isStarted (tile : TileState engine) : Bool :=
  match tile.stage with
  | .unstarted => false
  | _ => true

def isGone (tile : TileState engine) : Bool :=
  match tile.stage with
  | .gone => true
  | _ => false

end TileState

def Decoding.tagged {engine : Engine} (work : Decoding engine) (extent : Extent) (frame : Frame) :
    Frame :=
  let unsized := frame.width == 0 && frame.height == 0
  { segment := work.buffers.segment
    index := work.index
    representation := work.buffers.representation
    width := if unsized then extent.width else frame.width
    height := if unsized then extent.height else frame.height
    data := frame.data }

namespace Session

variable {plan : Plan}

def create (plan : Plan) : Except Fault (Session plan) := do
  let tiles ← plan.manifest.videoSets.mapM fun set => do
    let tileIndex ← plan.manifest.tileIndex set.tile
    pure (TileState.start set.tile set.extent tileIndex)
  pure {
    phase := .created
    cancelled := false
    terminated := false
    exited := 0
    barrier := Barrier.start 0
    holdsBarrier := false
    workers := 0
    metrics := Metrics.empty
    tiles
    owner := .idle
    returned := .ok () }

def available (session : Session plan) : Bool := !session.terminated && session.phase.isLive

def rasterOf (plan : Plan) (tile : Coordinate) : Except Fault Nat := do
  Manifest.checkInside plan.manifest.grid tile
  tile.rasterIndex plan.manifest.grid.columns

def tileAt (session : Session plan) (tile : Coordinate) : Except Fault (TileState plan.engine) := do
  let raster ← rasterOf plan tile
  elementAt session.tiles raster

def buffered (session : Session plan) (tile : Coordinate) : Except Fault Nat := do
  pure (← session.tileAt tile).queue.items.length

def stats (session : Session plan) (tile : Coordinate) : Except Fault TileStats := do
  pure (← session.tileAt tile).stats

def text (session : Session plan) : String :=
  let grid := plan.manifest.grid
  "Session \x7b manifest_url: " ++ Text.quote plan.manifestUrl ++ ", state: " ++
    session.phase.name ++ ", grid: GridSize \x7b cols: " ++ toString grid.columns ++ ", rows: " ++
    toString grid.rows ++ " \x7d, workers: " ++ toString session.workers ++ " \x7d"

end Session

end TiledStream
