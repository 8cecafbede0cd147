import TiledStream.Proofs.Session.Delivery

/-! What a worker leaves behind as it ends: the flag that some stream is over and, while nobody has
cancelled the session, an end marker as the last event of its tile. -/

namespace TiledStream

def isMarked (history : List TileEvent) : Bool := history.getLast?.any (·.isTerminal)

theorem isMarked_concat (history : List TileEvent) (event : TileEvent) :
    isMarked (history ++ [event]) = event.isTerminal := by
  simp [isMarked]

theorem isMarked_eq_false {history : List TileEvent}
    (frames : ∀ event ∈ history, event.isTerminal = false) : isMarked history = false := by
  cases last : history.getLast? with
  | none => simp [isMarked, last]
  | some event => simp [isMarked, last, frames event (List.mem_of_getLast? last)]

namespace Plan

variable {plan : Plan} {raster : Nat} {video : VideoSet} {calm other : Prop} {streamer : Streamer}
  {history : List TileEvent}

theorem Stands.weaken {stage : Stage plan.engine} (eases : other → calm)
    (stands : plan.Stands raster video calm streamer history stage) :
    plan.Stands raster video other streamer history stage := by
  cases stage with
  | requesting held => cases held <;> exact stands
  | ending error =>
      rcases stands with meets | ⟨stopped, rest⟩
      · exact .inl meets
      · exact .inr ⟨fun still => stopped (eases still), rest⟩
  | draining | exiting | leaving | gone =>
      rcases stands with ends | ⟨stopped, begins⟩
      · exact .inl ends
      · exact .inr ⟨fun still => stopped (eases still), begins⟩
  | _ => exact stands

theorem Follows.weaken {tile : TileState plan.engine} (eases : other → calm)
    (follows : plan.Follows raster video calm tile) : plan.Follows raster video other tile :=
  { follows with stands := follows.stands.weaken eases }

theorem isTerminal_of_mem_frameEvents {buffers : Buffers} {extent : Extent} {frames : List Frame}
    {event : TileEvent} (member : event ∈ frameEvents buffers extent frames) :
    event.isTerminal = false := by
  obtain ⟨index, inside, rfl⟩ := List.mem_mapIdx.mp member
  rfl

theorem Passed.isTerminal_of_mem {earlier : Nat} {event : TileEvent}
    (passed : plan.Passed raster video earlier history) (member : event ∈ history) :
    event.isTerminal = false := by
  induction passed with
  | start => simp at member
  | segment _ _ _ ih =>
      rcases List.mem_append.mp member with before | here
      · exact ih before
      · exact isTerminal_of_mem_frameEvents here

theorem Meets.isMarked {failure : Failure} (meets : plan.Meets raster video history failure) :
    isMarked history = false := by
  apply isMarked_eq_false
  intro event member
  cases meets with
  | segment passed _ => exact passed.isTerminal_of_mem member
  | opening passed _ _ => exact passed.isTerminal_of_mem member
  | decoding amid _ _ same =>
      rw [same] at member
      rcases List.mem_append.mp member with before | here
      · exact amid.passed.isTerminal_of_mem before
      · exact isTerminal_of_mem_frameEvents here

end Plan

namespace Session

variable {plan : Plan} {session next : Session plan} {raster : Nat} {video : VideoSet}
  {tile after : TileState plan.engine}

@[simp] theorem met_cancelled (session : Session plan) (result : Bool × Barrier) :
    (session.met result).cancelled = session.cancelled := by
  unfold met
  split <;> rfl

@[simp] theorem met_terminated (session : Session plan) (result : Bool × Barrier) :
    (session.met result).terminated = session.terminated := by
  unfold met
  split <;> rfl

/-- The signals of a session are never taken back. -/
structure Signals (session next : Session plan) : Prop where
  cancelled : session.cancelled = true → next.cancelled = true
  terminated : session.terminated = true → next.terminated = true

theorem WorkerChange.signals (change : WorkerChange session raster tile next) :
    Signals session next := by
  cases change with
  | drains | drainsLast => exact ⟨fun set => by simp [drained, setTile, set], id⟩
  | ended => exact ⟨id, fun _ => rfl⟩
  | left => exact ⟨fun set => by simp [setTile, set], fun set => by simp [setTile, set]⟩
  | _ => exact ⟨id, id⟩

theorem OwnerChange.signals (change : OwnerChange session next) : Signals session next := by
  cases change with
  | withdraws | withdrawn | retires | retired =>
      exact ⟨fun set => by simp [drained, set], id⟩
  | dropped | released | arrived =>
      exact ⟨fun set => by simp [set], fun set => by simp [set]⟩
  | _ => exact ⟨id, id⟩

theorem signals_of_step {action : Action} (stepped : session.step action = some next) :
    Signals session next := by
  cases stepChange_of_step stepped with
  | owner starts change => exact change.signals
  | worker raster tile found change => exact change.signals
  | consumer raster tile found change => cases change <;> exact ⟨id, id⟩
  | _ => exact ⟨id, id⟩

inductive Unbroken (plan : Plan) (raster : Nat) : Session plan → Prop where
  | start {session : Session plan} : create plan = .ok session → Unbroken plan raster session
  | step {session next : Session plan} (action : Action) :
      Unbroken plan raster session → session.step action = some next →
      (∀ tile after, session.tiles[raster]? = some tile → next.tiles[raster]? = some after →
        tile.stage.unwinds after.stage = false) →
      Unbroken plan raster next

theorem Unbroken.reachable (unbroken : Unbroken plan raster session) : Reachable plan session := by
  induction unbroken with
  | start created => exact .start created
  | step action _ stepped _ ih => exact ih.step action stepped

theorem Undisturbed.unbroken (undisturbed : Undisturbed plan raster session) :
    Unbroken plan raster session := by
  induction undisturbed with
  | start created => exact .start created
  | step action _ stepped alone ih =>
      exact ih.step action stepped fun tile after found at_raster =>
        (alone tile after found at_raster).1

/-- Until somebody cancels the session, its worker keeps to the stream of the tile. -/
theorem Unbroken.follows (placed : plan.manifest.Placed) (unbroken : Unbroken plan raster session)
    (declared : plan.manifest.videoSets[raster]? = some video)
    (found : session.tiles[raster]? = some tile) :
    plan.Follows raster video (session.cancelled = false) tile := by
  induction unbroken generalizing tile with
  | start created => exact follows_start created declared found
  | @step session next action unbroken stepped whole ih =>
      have meeting := unbroken.reachable.rendezvous placed.size
      obtain ⟨before, at_raster, change⟩ := meeting.tileChange stepped found
      have earlier (still : next.cancelled = false) : session.cancelled = false := by
        apply Bool.eq_false_iff.mpr
        intro cancelled
        rw [(signals_of_step stepped).cancelled cancelled] at still
        exact Bool.noConfusion still
      exact change.follows meeting (placed.videoSet_tile declared) at_raster
        ((ih at_raster).weaken earlier) (fun still _ => earlier still)
        (fun _ => whole before tile at_raster found)

/-- How a stream was ended: by a cancelled session, with a marker, or by an abortion of its own,
which leaves no marker. -/
def Ended (session : Session plan) (raster : Nat) (video : VideoSet) (history : List TileEvent) :
    Prop :=
  session.cancelled = true ∨ isMarked history = true ∨
    plan.Meets raster video history (.error .aborted)

def Told (session : Session plan) (raster : Nat) (video : VideoSet) (history : List TileEvent) :
    Stage plan.engine → Prop
  | .marking event _ => session.terminated = true ∧ event.isTerminal = true
  | .draining _ | .exiting | .leaving | .gone =>
    session.terminated = true ∧ session.Ended raster video history
  | _ => True

theorem Signals.told (signals : Signals session next) {history : List TileEvent}
    {stage : Stage plan.engine} (told : session.Told raster video history stage) :
    next.Told raster video history stage := by
  cases stage with
  | marking event fatal => exact ⟨signals.terminated told.1, told.2⟩
  | draining | exiting | leaving | gone =>
      exact ⟨signals.terminated told.1, told.2.imp_left signals.cancelled⟩
  | _ => trivial

theorem told_stageAfter {failure : Failure} {history : List TileEvent}
    (stays : (stageAfter failure : Stage plan.engine) ≠ .exiting) :
    session.Told raster video history (stageAfter failure) := by
  cases failure with
  | error error => trivial
  | fault fault => exact absurd rfl stays

theorem told_stageAfterEnd {error : StreamError} {history : List TileEvent}
    (terminated : session.terminated = true)
    (aborted : error = .aborted → session.Ended raster video history) :
    session.Told raster video history (stageAfterEnd error) := by
  unfold stageAfterEnd
  by_cases stopped : error = .aborted
  · rw [if_pos stopped]
    exact ⟨terminated, aborted stopped⟩
  · rw [if_neg stopped]
    by_cases finished : error.isEndOfStream = true
    · rw [if_pos finished]
      exact ⟨terminated, rfl⟩
    · rw [if_neg finished]
      exact ⟨terminated, rfl⟩

theorem told_stageAfterMark {fatal : Bool} {history : List TileEvent}
    (terminated : session.terminated = true) (ended : session.Ended raster video history) :
    session.Told raster video history (stageAfterMark fatal) := by
  cases fatal with
  | true => exact ⟨terminated, ended⟩
  | false => exact ⟨terminated, ended⟩

theorem WorkerChange.told (change : WorkerChange session raster tile next)
    (stands : plan.Stands raster video (session.cancelled = false) tile.streamer tile.history
      tile.stage)
    (told : session.Told raster video tile.history tile.stage) :
    ∃ after, next.tiles = session.tiles.set raster after ∧
      (tile.stage.unwinds after.stage = false →
        next.Told raster video after.history after.stage) := by
  have carried := change.signals.told told
  cases change with
  | refused _ failure _ status | unopened _ _ failure status | undecoded _ failure _ status =>
      refine ⟨_, rfl, fun whole => told_stageAfter ?_⟩
      intro exits
      simp [status, exits, Stage.unwinds] at whole
  | published request held =>
      refine ⟨_, rfl, fun _ => ?_⟩
      cases held <;> trivial
  | ended error status =>
      refine ⟨_, rfl, fun _ => told_stageAfterEnd rfl ?_⟩
      rintro rfl
      rw [status] at stands
      rcases stands with meets | ⟨stopped, _⟩
      · exact .inr (.inr meets)
      · exact .inl (eq_true_of_ne_false stopped)
  | marked event fatal queue status _ =>
      rw [status] at carried
      refine ⟨_, rfl, fun _ => told_stageAfterMark carried.1 (.inr (.inl ?_))⟩
      rw [isMarked_concat]
      exact carried.2
  | unmarked event fatal status given =>
      rw [status] at carried
      exact ⟨_, rfl, fun _ => told_stageAfterMark carried.1
        (.inl (BoundedQueue.cancelled_of_abandoned given))⟩
  | drains _ _ status | drainsLast _ status | exited status =>
      rw [status] at carried
      exact ⟨_, rfl, fun _ => carried⟩
  | left status =>
      rw [status] at carried
      exact ⟨_, met_tiles _ _, fun _ => carried⟩
  | _ => exact ⟨_, rfl, fun _ => trivial⟩

theorem Unbroken.told (placed : plan.manifest.Placed) (unbroken : Unbroken plan raster session)
    (declared : plan.manifest.videoSets[raster]? = some video)
    (found : session.tiles[raster]? = some tile) :
    session.Told raster video tile.history tile.stage := by
  induction unbroken generalizing tile with
  | start created =>
      obtain ⟨_, _, _, _, rfl⟩ := (create_eq_ok created).2.2 raster tile found
      trivial
  | @step session next action unbroken stepped whole ih =>
      have meeting := unbroken.reachable.rendezvous placed.size
      obtain ⟨before, at_raster, change⟩ := meeting.tileChange stepped found
      have carried := (signals_of_step stepped).told (ih at_raster)
      cases change with
      | kept _ => exact carried
      | worked _ _ change tiles =>
          have stands := (unbroken.follows placed declared at_raster).stands
          obtain ⟨other, same, kept⟩ := change.told stands (ih at_raster)
          obtain rfl := eq_of_set at_raster tiles same
          exact kept (whole before other at_raster found)
      | started _ _ _ => trivial
      | polled queue consumer _ _ => exact carried

/-- A worker that did not unwind has made its end known when it is counted as exited: the session is
no longer available and, while nobody has cancelled it, the last event of the tile is an end marker,
unless the stream met an abortion of its own. -/
theorem exited_worker_told {document : String}
    (parsed : Manifest.parse document = .ok plan.manifest)
    (declared : plan.manifest.videoSets[raster]? = some video)
    (unbroken : Unbroken plan raster session) (found : session.tiles[raster]? = some tile)
    (exited : tile.hasExited = true) :
    session.available = false ∧
      (session.cancelled = false →
        (isMarked tile.history = true ↔
          ¬plan.Meets raster video tile.history (.error .aborted))) := by
  have told := unbroken.told (Manifest.parse_placed parsed) declared found
  have ended : session.terminated = true ∧ session.Ended raster video tile.history := by
    unfold TileState.hasExited at exited
    cases status : tile.stage with
    | leaving | gone =>
        rw [status] at told
        exact told
    | _ =>
        rw [status] at exited
        exact Bool.noConfusion exited
  obtain ⟨terminated, ended⟩ := ended
  refine ⟨by simp [available, terminated], ?_⟩
  intro still
  constructor
  · intro marked meets
    rw [meets.isMarked] at marked
    exact Bool.noConfusion marked
  · intro own
    rcases ended with cancelled | marked | meets
    · rw [still] at cancelled
      exact Bool.noConfusion cancelled
    · exact marked
    · exact absurd meets own

theorem solo_exited_worker_told :
    ∃ (document : String) (video : VideoSet) (session : Session soloPlan)
      (tile : TileState soloPlan.engine),
      Manifest.parse document = .ok soloPlan.manifest ∧
      soloPlan.manifest.videoSets[0]? = some video ∧ Unbroken soloPlan 0 session ∧
      session.tiles[0]? = some tile ∧ tile.hasExited = true ∧ session.cancelled = false ∧
      tile.history.length = 2 ∧ session.available = false ∧
      (isMarked tile.history = true ↔
        ¬soloPlan.Meets 0 video tile.history (.error .aborted)) := by
  obtain ⟨document, _, parsed⟩ := Presentation.parse_document solo_fits
  obtain ⟨session, tile, unbroken, found, exited, still, length⟩ :
      ∃ (session : Session soloPlan) (tile : TileState soloPlan.engine),
        Unbroken soloPlan 0 session ∧ session.tiles[0]? = some tile ∧ tile.hasExited = true ∧
          session.cancelled = false ∧ tile.history.length = 2 := by
    have started : create soloPlan = .ok _ := rfl
    exact ⟨_, _, ((Undisturbed.start started).run (show runAlone 0
      ([.prefetch, .owner true, .owner true] ++ List.replicate 18 (.worker 0)) _ = some _
        from rfl)).unbroken, rfl, rfl, rfl, rfl⟩
  obtain ⟨unavailable, marked⟩ := exited_worker_told parsed
    (show soloPlan.manifest.videoSets[0]? = some (solo.videoSet { x := 0, y := 0 }) from rfl)
    unbroken found exited
  exact ⟨document, _, session, tile, parsed, rfl, unbroken, found, exited, still, length,
    unavailable, marked still⟩

/-- A worker whose selector panics exits without a word, and so does one whose first fetch is
answered by an abortion that nobody asked for. -/
theorem silent_exits :
    ∃ document, Manifest.parse document = .ok solo.manifest ∧
      (∃ (session : Session { soloPlan with choose := fun _ _ _ => .error .collaborator })
          (tile : TileState soloPlan.engine),
        Reachable _ session ∧ session.phase = .prefetching ∧ session.cancelled = false ∧
          session.tiles[0]? = some tile ∧ tile.hasExited = true ∧ session.available = true ∧
          tile.history = []) ∧
      ∃ (session : Session { soloPlan with answer := fun _ _ _ => .error .aborted })
          (tile : TileState soloPlan.engine),
        Reachable _ session ∧ session.phase = .prefetching ∧ session.cancelled = false ∧
          session.tiles[0]? = some tile ∧ tile.hasExited = true ∧ tile.history = [] := by
  obtain ⟨document, _, parsed⟩ := Presentation.parse_document solo_fits
  refine ⟨document, parsed, ?_, ?_⟩
  · have started : create { soloPlan with choose := fun _ _ _ => .error .collaborator } =
        .ok _ := rfl
    exact ⟨_, _, (Reachable.start started).run (show run
      ([.prefetch, .owner true, .owner true] ++ List.replicate 2 (.worker 0)) _ = some _ from rfl),
      rfl, rfl, rfl, rfl, rfl, rfl⟩
  · have started : create { soloPlan with answer := fun _ _ _ => .error .aborted } =
        .ok _ := rfl
    exact ⟨_, _, (Reachable.start started).run (show run
      ([.prefetch, .owner true, .owner true] ++ List.replicate 6 (.worker 0)) _ = some _ from rfl),
      rfl, rfl, rfl, rfl, rfl⟩

end Session

end TiledStream
