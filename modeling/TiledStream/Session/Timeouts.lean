import TiledStream.Session.Step

/-! Sessions whose writes have deadlines. An attempt that finds its queue full, and the look whether
the session is cancelled that its worker takes after it, are steps of their own, with anything in
between. -/

namespace TiledStream

structure Timed (plan : Plan) where
  session : Session plan
  /-- Raster positions of the tiles whose workers a full queue refused, and that have not yet looked
  whether the session is cancelled. -/
  refused : List Nat

namespace Timed

variable {plan : Plan}

def stageGivenUp? : Stage plan.engine → Option (Stage plan.engine)
  | .writing _ _ => some (.ending .aborted)
  | .marking _ fatal => some (Session.stageAfterMark fatal)
  | _ => none

def isBlocked (session : Session plan) (raster : Nat) : Bool :=
  match session.tiles[raster]? with
  | some tile => (stageGivenUp? tile.stage).isSome && tile.queue.isFull
  | none => false

inductive Action where
  /-- A step of the session in which no write fails. -/
  | act (action : Session.Action)
  /-- The deadline of a worker's write passes while the queue is full. -/
  | expire (raster : Nat)
  /-- A worker that a full queue refused looks whether the session is cancelled. -/
  | look (raster : Nat)
  deriving DecidableEq

/-- A worker goes on only with room in its queue, and not before it has looked. -/
def holdsBack (timed : Timed plan) : Session.Action → Bool
  | .worker raster => timed.refused.contains raster || isBlocked timed.session raster
  | _ => false

def look (timed : Timed plan) (raster : Nat) : Option (Timed plan) :=
  match timed.session.tiles[raster]? with
  | none => none
  | some tile =>
    (stageGivenUp? tile.stage).map fun stage =>
      { session :=
          if timed.session.cancelled then timed.session.setTile raster { tile with stage }
          else timed.session
        refused := timed.refused.filter (· != raster) }

def step (timed : Timed plan) : Action → Option (Timed plan)
  | .act action =>
    if timed.holdsBack action then none
    else (timed.session.step action).map fun session => { timed with session }
  | .expire raster =>
    if isBlocked timed.session raster && !timed.refused.contains raster then
      some { timed with refused := raster :: timed.refused }
    else none
  | .look raster => if timed.refused.contains raster then timed.look raster else none

def run (timed : Timed plan) : List Action → Option (Timed plan)
  | [] => some timed
  | action :: rest => (timed.step action).bind fun next => next.run rest

inductive Reachable (plan : Plan) : Timed plan → Prop where
  | start {session : Session plan} :
      Session.create plan = .ok session → Reachable plan { session, refused := [] }
  | step {timed next : Timed plan} (action : Action) :
      Reachable plan timed → timed.step action = some next → Reachable plan next

end Timed

end TiledStream
