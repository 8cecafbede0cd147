import TiledStream.Session.Step

/-! Runs of a session under one fair schedule: whoever can step does so in turn. -/

namespace TiledStream.Session

variable {plan : Plan}

def awaitsAnswer (session : Session plan) (raster : Nat) : Bool :=
  match session.tiles[raster]? with
  | some tile =>
    match tile.stage with
    | .waiting _ => !session.cancelled
    | _ => false
  | none => false

/-- Lets every worker take a step, and tells whether any did. Fetches are answered at once or not
at all. -/
def turn (answered : Bool) (session : Session plan) : Bool × Session plan :=
  (List.range session.tiles.length).foldl
    (fun (state : Bool × Session plan) raster =>
      if !answered && state.2.awaitsAnswer raster then state
      else
        match state.2.workerStep raster with
        | some next => (true, next)
        | none => state)
    (false, session)

def runWorkers (answered : Bool) : (turns : Nat) → Session plan → Session plan
  | 0, session => session
  | turns + 1, session =>
    match turn answered session with
    | (true, next) => runWorkers answered turns next
    | (false, _) => session

def runOwner (answered : Bool) : (turns : Nat) → Session plan → Session plan
  | 0, session => session
  | turns + 1, session =>
    if session.owner = .idle then session
    else
      match session.ownerStep true with
      | some next => runOwner answered turns next
      | none => runOwner answered turns (turn answered session).2

def patience : Nat := 10000000

def prefetch (session : Session plan) : Except StreamError Unit × Session plan :=
  let after := runOwner false patience session.callPrefetch
  (after.returned, after)

def shutdown (session : Session plan) : Session plan :=
  runOwner false patience session.callShutdown

def poll (session : Session plan) (tile : Coordinate) :
    Except Failure (Option TileEvent) × Session plan :=
  if session.phase = .closed then (.error (.error .sessionClosed), session)
  else
    match rasterOf plan tile with
    | .error fault => (.error (.fault fault), session)
    | .ok raster =>
      match session.takeEvent raster with
      | .error fault => (.error (.fault fault), session)
      | .ok (event, after) =>
        match event.bind (·.frame?) with
        | none => (.ok event, after)
        | some _ =>
          match plan.manifest.tileIndex tile with
          | .error fault => (.error (.fault fault), after)
          | .ok tileIndex => (.ok event, after.countConsumed tileIndex)

def drainTile (tile : Coordinate) : (polls : Nat) → Session plan →
    Except Failure (List Frame × Option TileEvent) × Session plan
  | 0, session => (.ok ([], none), session)
  | polls + 1, session =>
    match session.poll tile with
    | (.error failure, after) => (.error failure, after)
    | (.ok none, after) =>
      let ran := runWorkers true patience after
      match ran.buffered tile with
      | .error fault => (.error (.fault fault), ran)
      | .ok 0 => (.ok ([], none), ran)
      | .ok _ => drainTile tile polls ran
    | (.ok (some event), after) =>
      match event.frame? with
      | none => (.ok ([], some event), after)
      | some frame =>
        let following := drainTile tile polls after
        (following.1.map fun found => (frame :: found.1, found.2), following.2)

def requestCount (session : Session plan) (url : String) : Nat :=
  (session.tiles.map fun tile => tile.streamer.fetches.count url).sum

end TiledStream.Session
