import TiledStream.Session.State

/-! The steps of a session. Each touches the shared state once, so that any interleaving of workers,
owner and consumers is a sequence of steps. A thread that has to wait has no step. -/

namespace TiledStream.Session

variable {plan : Plan}

def setTile (session : Session plan) (raster : Nat) (tile : TileState plan.engine) : Session plan :=
  { session with tiles := session.tiles.set raster tile }

def stageAfter : Failure → Stage plan.engine
  | .error error => .ending error
  | .fault _ => .exiting

/-- What follows the end of a stream. A cancelled stream leaves no marker, and an error that is not
the tile's own stops the session. -/
def stageAfterEnd (error : StreamError) : Stage plan.engine :=
  if error = .aborted then .exiting
  else if error.isEndOfStream then .marking .endOfStream false
  else .marking (.error error.kind) (!error.isTileLocal)

def stageAfterMark (fatal : Bool) : Stage plan.engine := if fatal then .draining .look else .exiting

def answerAt (plan : Plan) (raster : Nat) (streamer : Streamer) (place : Nat) :
    Except StreamError Bytes :=
  match streamer.fetches[place]? with
  | some url => plan.answer raster place url
  | none => .error .aborted

def drained (session : Session plan) (result : Option Drain × Phase × Bool) : Session plan :=
  { session with phase := result.2.1, cancelled := session.cancelled || result.2.2 }

/-- Takes over what happened at the barrier. The end of a generation closes the session and wakes
the owner. -/
def met (session : Session plan) (result : Bool × Barrier) : Session plan :=
  if result.1 then
    { session with
      barrier := result.2
      phase := .closed
      owner :=
        match session.owner with
        | .parked generation => .woken generation
        | owner => owner }
  else { session with barrier := result.2 }

/-- Queues an event, unless the queue is full: then a worker of a cancelled session goes on without
it and any other waits. -/
def queueEvent (session : Session plan) (raster : Nat) (tile : TileState plan.engine)
    (event : TileEvent) (written abandoned : Stage plan.engine) : Option (Session plan) :=
  match tile.queue.attempt event session.cancelled with
  | .written queue =>
    some (session.setTile raster
      { tile with queue, history := tile.history ++ [event], stage := written })
  | .abandoned => some (session.setTile raster { tile with stage := abandoned })
  | .again => none

def decode (tile : TileState plan.engine) (work : Decoding plan.engine) : Stage plan.engine :=
  match work.batch with
  | frame :: rest =>
    .writing { work with batch := rest, index := work.index + 1 } (work.tagged tile.extent frame)
  | [] =>
    if work.source.hasMore then
      match work.source.round with
      | (.ok batch, source) => .decoding { work with source, batch }
      | (.error failure, _) => stageAfter failure
    else .waiting work.following

def workerStep (session : Session plan) (raster : Nat) : Option (Session plan) :=
  match session.tiles[raster]? with
  | none => none
  | some tile =>
    let goOn (stage : Stage plan.engine) : Option (Session plan) :=
      some (session.setTile raster { tile with stage })
    match tile.stage with
    | .unstarted | .gone => none
    | .requesting held =>
      let asked :=
        tile.streamer.request plan.manifest plan.manifestUrl plan.choose session.cancelled
      let stage := match asked.1 with
        | .ok request => .recording request held
        | .error failure => stageAfter failure
      some (session.setTile raster { tile with streamer := asked.2, stage })
    | .recording request held =>
      let metrics :=
        session.metrics.representationSelected tile.streamer.tileIndex request.representation
      some { session.setTile raster { tile with stage := .publishing request held } with metrics }
    | .publishing request held =>
      let stats : TileStats := {
        tileIndex := tile.streamer.tileIndex
        segmentsRequested := tile.streamer.segmentsRequested
        lastRepresentation := tile.streamer.trace.getLast? }
      let stage := match held with
        | some buffers => .opening request buffers
        | none => .waiting request
      some (session.setTile raster { tile with stats, stage })
    | .waiting request =>
      match request.await (answerAt plan raster tile.streamer) session.cancelled with
      | .ok buffers => goOn (.requesting (some buffers))
      | .error error => goOn (.ending error)
    | .opening following buffers =>
      match FrameSource.ofSegment plan.engine buffers.initial buffers.media plan.concurrency with
      | .ok source => goOn (.decoding { following, buffers, source, index := 0, batch := [] })
      | .error failure => goOn (stageAfter failure)
    | .decoding work => goOn (decode tile work)
    | .writing work frame =>
      session.queueEvent raster tile (.frame frame) (.counting work) (.ending .aborted)
    | .counting work =>
      let metrics := session.metrics.frameProduced tile.streamer.tileIndex
      some { session.setTile raster { tile with stage := .promoting work } with metrics }
    | .promoting work =>
      let phase := if session.phase = .prefetching then .streaming else session.phase
      some { session.setTile raster { tile with stage := .decoding work } with phase }
    | .ending error =>
      some { session.setTile raster { tile with stage := stageAfterEnd error } with
        terminated := true }
    | .marking event fatal =>
      session.queueEvent raster tile event (stageAfterMark fatal) (stageAfterMark fatal)
    | .draining drain =>
      let result := drain.step session.phase
      let stage := match result.1 with
        | some drain => .draining drain
        | none => .exiting
      some ((session.setTile raster { tile with stage }).drained result)
    | .exiting =>
      some { session.setTile raster { tile with stage := .leaving } with
        exited := session.exited + 1 }
    | .leaving =>
      some ((session.setTile raster { tile with stage := .gone }).met session.barrier.leave)

def finish (session : Session plan) (returned : Except StreamError Unit) : Session plan :=
  { session with owner := .idle, returned }

def callPrefetch (session : Session plan) : Session plan :=
  match session.phase with
  | .created => { session with owner := .swapping }
  | .prefetching | .streaming => session.finish (.ok ())
  | .draining | .closed => session.finish (.error .sessionClosed)

def callShutdown (session : Session plan) : Session plan :=
  if session.phase = .closed then session.finish (.ok ())
  else { session with owner := .retiring .look }

def startWorker (session : Session plan) (raster : Nat) (starts : Bool) : Session plan :=
  match session.tiles[raster]? with
  | none => session.finish (.ok ())
  | some tile =>
    if starts then
      { session.setTile raster { tile with stage := .requesting none } with
        workers := session.workers + 1
        owner := .starting (raster + 1) }
    else { session with owner := .discarding raster }

/-- A step of the owner. `starts` tells whether a worker about to be started does start. -/
def ownerStep (session : Session plan) (starts : Bool) : Option (Session plan) :=
  match session.owner with
  | .idle => none
  | .swapping =>
    if session.phase = .created then
      some { session with
        phase := .prefetching
        barrier := Barrier.start (plan.manifest.tileCount + 1)
        holdsBarrier := true
        owner := .starting 0 }
    else some (session.finish (.error .sessionClosed))
  | .starting raster => some (session.startWorker raster starts)
  | .discarding raster =>
    some { session with exited := session.exited + 1, owner := .dropping raster }
  | .dropping raster =>
    some ({ session with owner := .withdrawing raster .look }.met session.barrier.leave)
  | .withdrawing raster drain =>
    let result := drain.step session.phase
    let owner := match result.1 with
      | some drain => .withdrawing raster drain
      | none => .releasing (plan.manifest.tileCount - (raster + 1))
    some ({ session with owner }.drained result)
  | .releasing left =>
    match left with
    | 0 => some (session.finish (.error .aborted))
    | left + 1 => some ({ session with owner := .releasing left }.met session.barrier.leave)
  | .retiring drain =>
    let result := drain.step session.phase
    let owner := match result.1 with
      | some drain => .retiring drain
      | none => if session.holdsBarrier then .arriving else .closing
    some ({ session with owner }.drained result)
  | .arriving =>
    let result := session.barrier.arrive
    let owner := if result.1 then .joining else .parked session.barrier.generation
    some ({ session with holdsBarrier := false, owner }.met result)
  | .parked _ => none
  | .woken generation =>
    if session.barrier.generation = generation then
      some { session with owner := .parked generation }
    else some { session with owner := .joining }
  | .closing => some { session with phase := .closed, owner := .joining }
  | .joining =>
    if session.tiles.all fun tile => !tile.isStarted || tile.isGone then
      some ({ session with workers := 0 }.finish (.ok ()))
    else none

def takeEvent (session : Session plan) (raster : Nat) :
    Except Fault (Option TileEvent × Session plan) := do
  let tile ← elementAt session.tiles raster
  let taken := tile.queue.take
  pure (taken.1, session.setTile raster { tile with queue := taken.2 })

def countConsumed (session : Session plan) (tileIndex : Nat) : Session plan :=
  { session with metrics := session.metrics.frameConsumed tileIndex }

def consumerStep (session : Session plan) (raster : Nat) : Option (Session plan) :=
  match session.tiles[raster]? with
  | none => none
  | some tile =>
    match tile.consumer with
    | .idle =>
      if session.phase = .closed then some session
      else some (session.setTile raster { tile with consumer := .taking })
    | .taking =>
      let taken := tile.queue.take
      let consumer := if (taken.1.bind (·.frame?)).isSome then .counting else .idle
      some (session.setTile raster { tile with queue := taken.2, consumer })
    | .counting =>
      some ((session.setTile raster { tile with consumer := .idle }).countConsumed
        tile.streamer.tileIndex)

inductive Action where
  | prefetch
  | shutdown
  | owner (starts : Bool)
  | worker (raster : Nat)
  | consumer (raster : Nat)
  /-- The owner wakes up at the barrier without a reason. -/
  | rouse
  deriving DecidableEq

def step (session : Session plan) : Action → Option (Session plan)
  | .prefetch => if session.owner = .idle then some session.callPrefetch else none
  | .shutdown => if session.owner = .idle then some session.callShutdown else none
  | .owner starts => session.ownerStep starts
  | .worker raster => session.workerStep raster
  | .consumer raster => session.consumerStep raster
  | .rouse =>
    match session.owner with
    | .parked generation => some { session with owner := .woken generation }
    | _ => none

inductive Reachable (plan : Plan) : Session plan → Prop where
  | start {session : Session plan} : create plan = .ok session → Reachable plan session
  | step {session next : Session plan} (action : Action) :
      Reachable plan session → session.step action = some next → Reachable plan next

end TiledStream.Session
