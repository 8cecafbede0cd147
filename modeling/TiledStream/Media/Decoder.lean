import TiledStream.Frame
import TiledStream.Media.Cursor

/-! Decoders that turn a segment into rounds of frames, and the source that hands the frames out. -/

namespace TiledStream

structure Engine where
  State : Type
  /-- Opens a segment for a number of concurrent workers. -/
  openSegment : (concurrency : Nat) → Cursor → Except Failure State
  /-- Runs one round. -/
  send : State → Except Failure (List Frame) × State
  isFlushed : State → Bool

structure FrameSource (engine : Engine) where
  decoder : engine.State
  pending : List Frame
  /-- Rounds that ended without an error. -/
  rounds : Nat

namespace FrameSource

variable {engine : Engine}

/-- Whatever keeps a segment from being opened counts as a bad response. -/
def ofSegment (engine : Engine) (initial media : Bytes) (concurrency : Nat) :
    Except Failure (FrameSource engine) :=
  match engine.openSegment (max concurrency 1) (Cursor.start initial media) with
  | .ok decoder => .ok { decoder, pending := [], rounds := 0 }
  | .error (.error (.badResponse description)) => .error (.error (.badResponse description))
  | .error (.error error) => .error (.error (.badResponse error.message))
  | .error (.fault fault) => .error (.fault fault)

def hasMore (source : FrameSource engine) : Bool :=
  !source.pending.isEmpty || !engine.isFlushed source.decoder

def round (source : FrameSource engine) : Except Failure (List Frame) × FrameSource engine :=
  match engine.send source.decoder with
  | (.ok frames, decoder) => (.ok frames, { source with decoder, rounds := source.rounds + 1 })
  | (.error failure, decoder) => (.error failure, { source with decoder })

/-- Runs rounds until one yields frames, fails or flushes the decoder; `none` when the limit of
rounds is not enough. -/
def runRounds (source : FrameSource engine) :
    (limit : Nat) → Option (Except Failure (List Frame) × FrameSource engine)
  | 0 => none
  | limit + 1 =>
    match source.round with
    | (.error failure, after) => some (.error failure, after)
    | (.ok frames, after) =>
      if !frames.isEmpty || engine.isFlushed after.decoder then some (.ok frames, after)
      else after.runRounds limit

def consumeBatch (source : FrameSource engine) (limit : Nat) :
    Option (Except Failure (List Frame) × FrameSource engine) :=
  if !source.pending.isEmpty then some (.ok source.pending, { source with pending := [] })
  else if engine.isFlushed source.decoder then some (.error (.error .streamDrained), source)
  else source.runRounds limit

def takePending (source : FrameSource engine) : Option Frame × FrameSource engine :=
  match source.pending with
  | [] => (none, source)
  | frame :: rest => (some frame, { source with pending := rest })

def consumeOne (source : FrameSource engine) (limit : Nat) :
    Option (Except Failure (Option Frame) × FrameSource engine) :=
  if source.pending.isEmpty && !engine.isFlushed source.decoder then
    match source.runRounds limit with
    | none => none
    | some (.error failure, after) => some (.error failure, after)
    | some (.ok frames, after) =>
      let taken := { after with pending := after.pending ++ frames }.takePending
      some (.ok taken.1, taken.2)
  else
    let taken := source.takePending
    some (.ok taken.1, taken.2)

def text (source : FrameSource engine) : String :=
  let pending := source.pending.length
  let flushed := engine.isFlushed source.decoder
  let rounds := source.rounds
  "FrameSource \x7b pending: " ++ toString pending ++ ", flushed: " ++ toString flushed ++
    ", rounds: " ++ toString rounds ++ " \x7d"

end FrameSource

end TiledStream
