import TiledStream.Segment.Store
import TiledStream.Tile.Streamer

/-! Playback of one tile from resources in memory: the requests under way, the oldest first, and the
answers to the fetches so far. -/

namespace TiledStream

structure Playback where
  streamer : Streamer
  store : Store
  /-- Answers by place of the fetch. -/
  answers : List (Except StreamError Bytes)
  pending : List SegmentRequest
  cancelled : Bool

namespace Playback

def start (streamer : Streamer) (store : Store) : Playback :=
  { streamer, store, answers := [], pending := [], cancelled := false }

def answer (playback : Playback) (url : String) : Playback :=
  { playback with
    store := playback.store.request url
    answers := playback.answers ++ [playback.store.answer url] }

def deliver (playback : Playback) : Playback :=
  (playback.streamer.fetches.drop playback.answers.length).foldl answer playback

def answerAt (playback : Playback) (place : Nat) : Except StreamError Bytes :=
  (playback.answers[place]?).getD (.error .aborted)

def request (playback : Playback) (manifest : Manifest) (manifestUrl : String)
    (choose : Selector) : Except Failure SegmentRequest × Playback :=
  let asked := playback.streamer.request manifest manifestUrl choose playback.cancelled
  match asked.1 with
  | .ok request =>
    (.ok request, { playback with
      streamer := asked.2
      pending := playback.pending ++ [request] })
  | .error failure => (.error failure, { playback with streamer := asked.2 })

/-- Waits for the oldest request, `none` when there is none. Cancellation does not stop its
fetches. -/
def wait (playback : Playback) : Option (Except StreamError Buffers) × Playback :=
  match playback.pending with
  | [] => (none, playback)
  | request :: rest =>
    let answered := if playback.cancelled then playback else playback.deliver
    (some (request.await answered.answerAt playback.cancelled), { answered with pending := rest })

def cancel (playback : Playback) : Playback := { playback with cancelled := true }

def hasSample (playback : Playback) : Bool :=
  playback.answers.any fun answer => answer.toOption.isSome

end Playback

end TiledStream
