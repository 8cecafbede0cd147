import TiledStream.Proofs.Manifest.Placement
import TiledStream.Proofs.Manifest.RoundTrip
import TiledStream.Proofs.Session.Worker

/-! What is queued for a tile, in every run of a session: a beginning of the tile's stream, and all
of it once a worker that nobody disturbed is done. -/

namespace TiledStream.Session

variable {plan : Plan} {session next : Session plan} {raster : Nat} {video : VideoSet}
  {calm : Prop} {tile after : TileState plan.engine}

/-- Runs in which only the worker of a tile stops the session while that worker is under way, and in
which that worker does not unwind. -/
inductive Undisturbed (plan : Plan) (raster : Nat) : Session plan → Prop where
  | start {session : Session plan} : create plan = .ok session → Undisturbed plan raster session
  | step {session next : Session plan} (action : Action) :
      Undisturbed plan raster session → session.step action = some next →
      (∀ tile after, session.tiles[raster]? = some tile → next.tiles[raster]? = some after →
        tile.stage.unwinds after.stage = false ∧
          (next.cancelled = true →
            session.cancelled = true ∨ action = .worker raster ∨ tile.stage.isStopping = true)) →
      Undisturbed plan raster next

theorem Undisturbed.reachable (undisturbed : Undisturbed plan raster session) :
    Reachable plan session := by
  induction undisturbed with
  | start created => exact .start created
  | step action _ stepped _ ih => exact ih.step action stepped

theorem WorkerChange.isStopping (change : WorkerChange session raster tile next)
    (found : session.tiles[raster]? = some tile) (at_raster : next.tiles[raster]? = some after)
    (before : session.cancelled = true → tile.stage.isStopping = true)
    (cancelled : next.cancelled = true) : after.stage.isStopping = true := by
  have inside := (List.getElem?_eq_some_iff.mp found).1
  cases change with
  | requested _ _ _ status | refused _ _ _ status | opened _ _ _ status | unopened _ _ _ status
  | picked _ _ _ status | decoded _ _ _ status | undecoded _ _ _ status | wrote _ _ _ status
  | marked _ _ _ status | recorded _ _ status | published _ _ status | received _ _ status
  | missed _ _ status | abandoned _ _ status | unmarked _ _ status | finished _ status
  | counted _ status | promoted _ status | ended _ status =>
      have stopped := before cancelled
      rw [status] at stopped
      exact Bool.noConfusion stopped
  | drains | drainsLast | exited =>
      simp only [drained, setTile, List.getElem?_set_self inside, Option.some.injEq] at at_raster
      rw [← at_raster]
      rfl
  | left =>
      simp only [met_tiles, setTile, List.getElem?_set_self inside, Option.some.injEq] at at_raster
      rw [← at_raster]
      rfl

theorem Undisturbed.isStopping (placed : plan.manifest.Placed)
    (undisturbed : Undisturbed plan raster session) (cancelled : session.cancelled = true)
    (found : session.tiles[raster]? = some tile) : tile.stage.isStopping = true := by
  induction undisturbed generalizing tile with
  | start created =>
      rw [(create_eq_ok created).1] at cancelled
      simp at cancelled
  | step action undisturbed stepped alone ih =>
      have meeting := undisturbed.reachable.rendezvous placed.size
      obtain ⟨before, at_raster, change⟩ := meeting.tileChange stepped found
      have reason := (alone before tile at_raster found).2 cancelled
      cases change with
      | kept other =>
          rcases reason with already | worked | stopped
          · exact ih already at_raster
          · exact absurd worked other
          · exact stopped
      | worked _ _ change =>
          exact change.isStopping at_raster found (fun already => ih already at_raster) cancelled
      | started starts owned call =>
          have idle := meeting.unstarted call at_raster
          rcases reason with already | worked | stopped
          · have stopped := ih already at_raster
            rw [idle] at stopped
            exact Bool.noConfusion stopped
          · rw [owned] at worked
            simp at worked
          · rw [idle] at stopped
            exact Bool.noConfusion stopped
      | polled queue consumer consumed _ =>
          rcases reason with already | worked | stopped
          · have stopped := ih already at_raster
            exact stopped
          · rw [consumed] at worked
            simp at worked
          · exact stopped

theorem TileChange.follows {action : Action} (change : TileChange session raster tile action next after)
    (meeting : Rendezvous session) (placed : plan.manifest.videoSet video.tile = .ok video)
    (found : session.tiles[raster]? = some tile)
    (follows : plan.Follows raster video calm tile)
    (token : calm → tile.stage.isStopping = false → session.cancelled = false)
    (calmly : calm → tile.stage.unwinds after.stage = false) :
    plan.Follows raster video calm after := by
  cases change with
  | kept _ => exact follows
  | worked _ _ change tiles =>
      obtain ⟨other, same, kept⟩ := change.follows placed follows token
      obtain rfl := eq_of_set found tiles same
      exact kept calmly
  | started _ _ call =>
      obtain ⟨place, extent, stands⟩ := follows
      rw [meeting.unstarted call found] at stands
      exact ⟨place, extent, stands⟩
  | polled queue consumer _ _ => exact ⟨follows.tile, follows.extent, follows.stands⟩

theorem follows_start (created : create plan = .ok session)
    (declared : plan.manifest.videoSets[raster]? = some video)
    (found : session.tiles[raster]? = some tile) : plan.Follows raster video calm tile := by
  obtain ⟨other, tileIndex, at_raster, _, rfl⟩ := (create_eq_ok created).2.2 raster tile found
  obtain rfl := Option.some.inj (declared.symm.trans at_raster)
  exact ⟨rfl, rfl, rfl, Plan.asked_start tileIndex⟩

theorem Reachable.follows (placed : plan.manifest.Placed) (reached : Reachable plan session)
    (declared : plan.manifest.videoSets[raster]? = some video)
    (found : session.tiles[raster]? = some tile) : plan.Follows raster video False tile := by
  induction reached generalizing tile with
  | start created => exact follows_start created declared found
  | step action reached stepped ih =>
      have meeting := reached.rendezvous placed.size
      obtain ⟨before, at_raster, change⟩ := meeting.tileChange stepped found
      exact change.follows meeting (placed.videoSet_tile declared) at_raster (ih at_raster)
        False.elim False.elim

theorem Undisturbed.follows (placed : plan.manifest.Placed)
    (undisturbed : Undisturbed plan raster session)
    (declared : plan.manifest.videoSets[raster]? = some video)
    (found : session.tiles[raster]? = some tile) : plan.Follows raster video True tile := by
  induction undisturbed generalizing tile with
  | start created => exact follows_start created declared found
  | @step session next action undisturbed stepped alone ih =>
      have meeting := undisturbed.reachable.rendezvous placed.size
      obtain ⟨before, at_raster, change⟩ := meeting.tileChange stepped found
      -- A token that was fired found the worker done, so it is not fired while the worker is busy.
      refine change.follows meeting (placed.videoSet_tile declared) at_raster (ih at_raster)
        (fun _ busy => ?_) (fun _ => (alone before tile at_raster found).1)
      cases cancelled : session.cancelled with
      | false => rfl
      | true => rw [undisturbed.isStopping placed cancelled at_raster] at busy; exact busy

section Solo

def leavesAlone (raster : Nat) (session next : Session plan) (action : Action) : Bool :=
  match session.tiles[raster]?, next.tiles[raster]? with
  | some tile, some after =>
    !tile.stage.unwinds after.stage &&
      (!next.cancelled || session.cancelled || decide (action = .worker raster) ||
        tile.stage.isStopping)
  | _, _ => true

def runAlone (raster : Nat) : List Action → Session plan → Option (Session plan)
  | [], session => some session
  | action :: rest, session =>
    match session.step action with
    | some next => if leavesAlone raster session next action then runAlone raster rest next else none
    | none => none

theorem Undisturbed.run {actions : List Action} (undisturbed : Undisturbed plan raster session)
    (ran : runAlone raster actions session = some next) : Undisturbed plan raster next := by
  induction actions generalizing session with
  | nil =>
      obtain rfl : session = next := Option.some.inj ran
      exact undisturbed
  | cons action actions ih =>
      rw [runAlone] at ran
      split at ran
      · rename_i between stepped
        split at ran
        · rename_i alone
          refine ih (undisturbed.step action stepped fun tile after found at_raster => ?_) ran
          simp only [leavesAlone, found, at_raster, Bool.and_eq_true, Bool.not_eq_true',
            Bool.or_eq_true, decide_eq_true_eq] at alone
          refine ⟨alone.1, ?_⟩
          intro cancelled
          simpa [cancelled, or_assoc] using alone.2
        · simp at ran
      · simp at ran

def solo : Presentation :=
  { Presentation.tiled 1 1 with ladder := [{ id := 1, bandwidth := 1200000 }] }

theorem solo_fits : solo.Fits where
  columns := by decide
  rows := by decide
  tiles := by decide
  width := by decide
  height := by decide
  presentationDuration duration some := by cases some
  minBufferTime duration some := by cases some
  maxSegmentDuration duration some := by cases some
  rung := by decide
  rungs := by decide
  track track some := by cases some

def soloPlan : Plan where
  manifest := solo.manifest
  manifestUrl := "http://localhost/solo.mpd"
  engine := {
    State := Bool
    openSegment := fun _ _ => .ok false
    send := fun _ => (.ok [.unnumbered 0 0 [1]], true)
    isFlushed := id }
  choose := fun _ _ count => .ok count
  answer := fun _ place _ => if place ≤ 1 then .ok [1] else .error (.badRequest "not found")
  concurrency := 1

end Solo

end TiledStream.Session
