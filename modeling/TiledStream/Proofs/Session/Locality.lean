import TiledStream.Proofs.Session.Closing
import TiledStream.Proofs.Session.Delivery

/-! A tile fails alone: what is queued for it depends on the answers to its own fetches, and an error
that is its own neither cancels nor drains the session. -/

namespace TiledStream

namespace Plan

variable {plan : Plan} {raster : Nat} {video : VideoSet}
  {answer : (raster place : Nat) → (url : String) → Except StreamError Bytes}

theorem places_congr (earlier : Nat) :
    Plan.places { plan with answer } video earlier = plan.places video earlier := by
  induction earlier with
  | zero => rfl
  | succ earlier ih =>
      simp only [places]
      rw [ih]
      rfl

theorem segmentAt_congr (own : answer raster = plan.answer raster) (earlier : Nat) :
    Plan.segmentAt { plan with answer } raster video earlier =
      plan.segmentAt raster video earlier := by
  simp only [segmentAt, places_congr, own]
  rfl

theorem decodedAt_congr (buffers : Buffers) (rounds : Nat) :
    Plan.decodedAt { plan with answer } buffers rounds = plan.decodedAt buffers rounds := by
  unfold decodedAt
  cases FrameSource.ofSegment plan.engine buffers.initial buffers.media plan.concurrency with
  | error failure => rfl
  | ok source => rfl

theorem streamFrom_congr (own : answer raster = plan.answer raster)
    (rounds segments earlier : Nat) :
    Plan.streamFrom { plan with answer } raster video rounds segments earlier =
      plan.streamFrom raster video rounds segments earlier := by
  induction segments generalizing earlier with
  | zero => rfl
  | succ segments ih =>
      simp only [streamFrom, segmentAt_congr own, decodedAt_congr, ih]

/-- Any two beginnings of a stream agree as far as both go. -/
theorem Begins.comparable {history other : List TileEvent}
    (begins : plan.Begins raster video history) (also : plan.Begins raster video other) :
    history <+: other ∨ other <+: history := by
  obtain ⟨limit, shown⟩ := begins
  obtain ⟨further, shown_also⟩ := also
  rcases Nat.le_total limit further with le | le
  · exact List.prefix_or_prefix_of_prefix (shown.trans (tileStream_mono le).1) shown_also
  · exact List.prefix_or_prefix_of_prefix shown (shown_also.trans (tileStream_mono le).1)

theorem begins_congr (own : answer raster = plan.answer raster) {history : List TileEvent}
    (begins : Plan.Begins { plan with answer } raster video history) :
    plan.Begins raster video history := by
  obtain ⟨limit, shown⟩ := begins
  rw [tileStream, streamFrom_congr own] at shown
  exact ⟨limit, shown⟩

end Plan

namespace TileState

variable {engine : Engine}

/-- A tile as if every event had been taken from its queue. -/
def alone (tile : TileState engine) : TileState engine :=
  { tile with
    queue := { capacity := BoundedQueue.eventCapacity, items := [] }
    consumer := .idle }

@[simp] theorem alone_history (tile : TileState engine) : tile.alone.history = tile.history := rfl

@[simp] theorem alone_stage (tile : TileState engine) : tile.alone.stage = tile.stage := rfl

end TileState

namespace Stage

variable {engine : Engine}

def isLocal : Stage engine → Bool
  | .ending error => error.isTileLocal
  | .marking _ fatal => !fatal
  | .draining _ => false
  | _ => true

end Stage

namespace Session

variable {plan : Plan} {session next : Session plan} {raster : Nat} {video : VideoSet}
  {tile after : TileState plan.engine}
  {answer : (raster place : Nat) → (url : String) → Except StreamError Bytes}

def solitary (raster : Nat) (tile : TileState plan.engine) : Session plan where
  phase := .prefetching
  cancelled := false
  terminated := false
  exited := 0
  barrier := Barrier.start 0
  holdsBarrier := false
  workers := 0
  metrics := Metrics.empty
  tiles := List.replicate (raster + 1) tile
  owner := .idle
  returned := .ok ()

/-- What becomes of a tile in a step if its worker is left to itself, and started first. -/
def advance (plan : Plan) (raster : Nat) (tile : TileState plan.engine) : TileState plan.engine :=
  match tile.stage with
  | .unstarted => { tile with stage := .requesting none }.alone
  | _ =>
    match (solitary raster tile.alone).workerStep raster with
    | some next => ((next.tiles[raster]?).getD tile.alone).alone
    | none => tile.alone

def course (plan : Plan) (raster : Nat) (first : TileState plan.engine) :
    (steps : Nat) → TileState plan.engine
  | 0 => first.alone
  | steps + 1 => advance plan raster (course plan raster first steps)

theorem WorkerChange.advances (change : WorkerChange session raster tile next)
    (still : session.cancelled = false) (locally : tile.stage.isLocal = true) :
    ∃ after, next.tiles = session.tiles.set raster after ∧
      advance plan raster tile = after.alone := by
  cases change with
  | requested _ _ _ status made | refused _ _ _ status made =>
      rw [still] at made
      refine ⟨_, rfl, ?_⟩
      simp [advance, solitary, workerStep, setTile, TileState.alone, status, made]
  | published _ held status =>
      refine ⟨_, rfl, ?_⟩
      cases held <;> simp [advance, solitary, workerStep, setTile, TileState.alone, status]
  | received _ _ status answered | missed _ _ status answered =>
      rw [still] at answered
      refine ⟨_, rfl, ?_⟩
      simp [advance, solitary, workerStep, setTile, TileState.alone, status, answered]
  | opened _ _ _ status opened | unopened _ _ _ status opened =>
      refine ⟨_, rfl, ?_⟩
      simp [advance, solitary, workerStep, setTile, TileState.alone, status, opened]
  | picked _ _ _ status batch =>
      refine ⟨_, rfl, ?_⟩
      simp [advance, solitary, workerStep, setTile, TileState.alone, status, decode, batch]
  | decoded _ _ _ status batch more ran | undecoded _ _ _ status batch more ran =>
      refine ⟨_, rfl, ?_⟩
      simp [advance, solitary, workerStep, setTile, TileState.alone, status, decode, batch, more, ran]
  | finished _ status batch more =>
      refine ⟨_, rfl, ?_⟩
      simp [advance, solitary, workerStep, setTile, TileState.alone, status, decode, batch, more]
  | wrote _ _ _ status _ | marked _ _ _ status _ =>
      -- Both queues had room, the emptied one at any rate.
      refine ⟨_, rfl, ?_⟩
      simp [advance, solitary, workerStep, setTile, TileState.alone, status, queueEvent,
        BoundedQueue.attempt, BoundedQueue.write?, BoundedQueue.isFull, BoundedQueue.eventCapacity]
  | abandoned _ _ _ given | unmarked _ _ _ given =>
      rw [BoundedQueue.cancelled_of_abandoned given] at still
      exact Bool.noConfusion still
  | drains _ _ status | drainsLast _ status =>
      rw [status] at locally
      exact Bool.noConfusion locally
  | left status =>
      refine ⟨_, met_tiles _ _, ?_⟩
      simp [advance, solitary, workerStep, setTile, TileState.alone, status]
  | recorded _ _ status | counted _ status | promoted _ status | ended _ status | exited status =>
      refine ⟨_, rfl, ?_⟩
      simp [advance, solitary, workerStep, setTile, TileState.alone, status]

theorem decode_congr (tile : TileState plan.engine) (work : Decoding plan.engine) :
    @decode { plan with answer } tile work = @decode plan tile work := by
  unfold decode
  cases work.batch with
  | cons frame rest => rfl
  | nil =>
      cases work.source.hasMore with
      | false => rfl
      | true =>
          rcases work.source.round with ⟨failure | batch, source⟩
          · rfl
          · rfl

theorem advance_congr (own : answer raster = plan.answer raster) (tile : TileState plan.engine) :
    advance { plan with answer } raster tile = advance plan raster tile := by
  cases status : tile.stage with
  | waiting request =>
      have answered : answerAt { plan with answer } raster = answerAt plan raster := by
        funext streamer place
        simp only [answerAt, own]
      cases outcome : request.await (answerAt plan raster tile.streamer) false <;>
        simp [advance, solitary, workerStep, setTile, TileState.alone, status, answered, outcome]
  | opening following buffers =>
      cases outcome : FrameSource.ofSegment plan.engine buffers.initial buffers.media
        plan.concurrency with
      | error failure =>
          simp [advance, solitary, workerStep, setTile, TileState.alone, status, outcome]
          rfl
      | ok source =>
          simp [advance, solitary, workerStep, setTile, TileState.alone, status, outcome]
  | decoding work =>
      simp only [advance, solitary, workerStep, setTile, TileState.alone, status]
      simp [decode_congr]
  | unstarted | gone =>
      simp [advance, solitary, workerStep, TileState.alone, status]
  | requesting | ending =>
      simp [advance, solitary, workerStep, setTile, TileState.alone, status]
      rfl
  | writing | marking =>
      simp [advance, solitary, workerStep, TileState.alone, status]
      rfl
  | draining =>
      simp [advance, solitary, workerStep, setTile, drained, TileState.alone, status]
  | recording | publishing | counting | promoting | exiting | leaving =>
      simp [advance, solitary, workerStep, setTile, TileState.alone, status]

theorem advance_of_isStopping (plan : Plan) (raster : Nat) {tile : TileState plan.engine}
    (stopped : tile.stage.isStopping = true) :
    (advance plan raster tile).stage.isStopping = true ∧
      (advance plan raster tile).history = tile.history := by
  cases status : tile.stage with
  | draining drain =>
      cases result : (drain.step .prefetching).1 <;>
        simp [advance, solitary, workerStep, setTile, drained, TileState.alone, status, result,
          Stage.isStopping]
  | exiting | leaving | gone =>
      simp [advance, solitary, workerStep, setTile, TileState.alone, status, Stage.isStopping]
  | _ =>
      rw [status] at stopped
      exact Bool.noConfusion stopped

theorem course_congr (own : answer raster = plan.answer raster) (first : TileState plan.engine)
    (steps : Nat) :
    course { plan with answer } raster first steps = course plan raster first steps := by
  induction steps with
  | zero => rfl
  | succ steps ih =>
      rw [course, course, ← ih]
      exact advance_congr own _

theorem course_of_isStopping {first : TileState plan.engine} {steps later : Nat}
    (le : steps ≤ later) (stopped : (course plan raster first steps).stage.isStopping = true) :
    (course plan raster first later).stage.isStopping = true ∧
      (course plan raster first later).history = (course plan raster first steps).history := by
  induction le with
  | refl => exact ⟨stopped, rfl⟩
  | step _ ih =>
      obtain ⟨still, same⟩ := ih
      obtain ⟨stays, kept⟩ := advance_of_isStopping plan raster still
      exact ⟨stays, kept.trans same⟩

theorem course_history_unique {first : TileState plan.engine} {steps others : Nat}
    (stopped : (course plan raster first steps).stage.isStopping = true)
    (also : (course plan raster first others).stage.isStopping = true) :
    (course plan raster first steps).history = (course plan raster first others).history := by
  rcases Nat.le_total steps others with le | le
  · exact (course_of_isStopping le stopped).2.symm
  · exact (course_of_isStopping le also).2

/-- Runs in which nobody shuts the session down, every worker gets its thread and no tile ends with
an error that is not its own. -/
inductive Untroubled (plan : Plan) : Session plan → Prop where
  | start {session : Session plan} : create plan = .ok session → Untroubled plan session
  | step {session next : Session plan} (action : Action) :
      Untroubled plan session → session.step action = some next → action ≠ .shutdown →
      (∀ raster, next.owner ≠ .discarding raster) →
      (∀ tile ∈ next.tiles, ∀ error, tile.stage = .ending error → error.isTileLocal = true) →
      Untroubled plan next

theorem Untroubled.reachable (untroubled : Untroubled plan session) : Reachable plan session := by
  induction untroubled with
  | start created => exact .start created
  | step action _ stepped _ _ _ ih => exact ih.step action stepped

structure Calm (session : Session plan) : Prop where
  cancelled : session.cancelled = false
  live : session.phase.isLive = true
  owner : session.owner = .idle ∨ session.owner = .swapping ∨
    ∃ raster, session.owner = .starting raster
  locally : ∀ tile ∈ session.tiles, tile.stage.isLocal = true

theorem isLocal_stageAfter {failure : Failure}
    (own : ∀ error, failure = .error error → error.isTileLocal = true) :
    (stageAfter failure : Stage plan.engine).isLocal = true := by
  cases failure with
  | error error => exact own error rfl
  | fault fault => rfl

theorem isLocal_stageAfterEnd {error : StreamError} (own : error.isTileLocal = true) :
    (stageAfterEnd error : Stage plan.engine).isLocal = true := by
  unfold stageAfterEnd
  split
  · rfl
  · split
    · rfl
    · simp [Stage.isLocal, own]

theorem WorkerChange.isLocal (change : WorkerChange session raster tile next)
    (locally : tile.stage.isLocal = true) :
    ∃ after, next.tiles = session.tiles.set raster after ∧
      ((∀ error, after.stage = .ending error → error.isTileLocal = true) →
        after.stage.isLocal = true) := by
  cases change with
  | refused | unopened | undecoded =>
      refine ⟨_, rfl, fun own => isLocal_stageAfter ?_⟩
      rintro error rfl
      exact own error rfl
  | published request held =>
      refine ⟨_, rfl, fun _ => ?_⟩
      cases held <;> rfl
  | missed | abandoned => exact ⟨_, rfl, fun own => own _ rfl⟩
  | ended error status =>
      rw [status] at locally
      exact ⟨_, rfl, fun _ => isLocal_stageAfterEnd locally⟩
  | marked event fatal _ status | unmarked event fatal status =>
      rw [status] at locally
      cases fatal with
      | true => exact Bool.noConfusion locally
      | false => exact ⟨_, rfl, fun _ => rfl⟩
  | drains _ _ status | drainsLast _ status =>
      rw [status] at locally
      exact Bool.noConfusion locally
  | left => exact ⟨_, met_tiles _ _, fun _ => rfl⟩
  | _ => exact ⟨_, rfl, fun _ => rfl⟩

theorem met_of_live (result : Bool × Barrier) (live : (session.met result).phase ≠ .closed) :
    session.met result = { session with barrier := result.2 } := by
  unfold met at live ⊢
  split
  · rename_i last
    simp [last] at live
  · rfl

theorem WorkerChange.goesOn_calm (change : WorkerChange session raster tile next)
    (live : session.phase.isLive = true) (locally : tile.stage.isLocal = true)
    (opened : next.phase ≠ .closed) :
    next.cancelled = session.cancelled ∧ next.phase.isLive = true ∧
      next.owner = session.owner := by
  cases change with
  | promoted =>
      refine ⟨rfl, ?_, rfl⟩
      dsimp only
      split
      · rfl
      · exact live
  | drains _ _ status | drainsLast _ status =>
      rw [status] at locally
      exact Bool.noConfusion locally
  | left =>
      rw [met_of_live _ opened]
      exact ⟨rfl, live, rfl⟩
  | _ => exact ⟨rfl, live, rfl⟩

theorem Calm.isShuttingDown (calm : Calm session) : session.owner.isShuttingDown = false := by
  rcases calm.owner with call | call | ⟨raster, call⟩ <;> rw [call] <;> rfl

theorem Calm.locally_set (calm : Calm session) (after : TileState plan.engine)
    (locally : after.stage.isLocal = true) :
    ∀ tile ∈ session.tiles.set raster after, tile.stage.isLocal = true := by
  intro tile member
  rcases List.mem_or_eq_of_mem_set member with before | rfl
  · exact calm.locally tile before
  · exact locally

theorem Calm.ownerStep (calm : Calm session) (change : OwnerChange session next)
    (spawned : ∀ raster, next.owner ≠ .discarding raster) : Calm next := by
  have known := calm.owner
  cases change with
  | opened => exact ⟨calm.cancelled, rfl, .inr (.inr ⟨0, rfl⟩), calm.locally⟩
  | unopened => exact ⟨calm.cancelled, calm.live, .inl rfl, calm.locally⟩
  | startedAll => exact ⟨calm.cancelled, calm.live, .inl rfl, calm.locally⟩
  | started raster tile call found =>
      exact ⟨calm.cancelled, calm.live, .inr (.inr ⟨raster + 1, rfl⟩), calm.locally_set _ rfl⟩
  | unstarted raster => exact absurd rfl (spawned raster)
  | discarded _ call | dropped _ call | withdraws _ _ _ call | withdrawn _ _ call
  | releasedAll call | released _ call | retires _ _ call | retired _ call | arrived call
  | sleepsAgain _ call | wentOn _ call | closed call | joined call =>
      rw [call] at known
      simp at known

theorem Calm.workerStep (calm : Calm session) (found : session.tiles[raster]? = some tile)
    (change : WorkerChange session raster tile next) (opened : next.phase ≠ .closed)
    (own : ∀ tile ∈ next.tiles, ∀ error, tile.stage = .ending error → error.isTileLocal = true) :
    Calm next := by
  have locally := calm.locally tile (List.mem_of_getElem? found)
  obtain ⟨cancelled, live, owner⟩ := change.goesOn_calm calm.live locally opened
  obtain ⟨after, tiles, kept⟩ := change.isLocal locally
  have inside := (List.getElem?_eq_some_iff.mp found).1
  refine ⟨cancelled.trans calm.cancelled, live, by rw [owner]; exact calm.owner, ?_⟩
  rw [tiles] at own ⊢
  exact calm.locally_set after (kept (own after (List.mem_set inside after)))

theorem Calm.consumerStep (calm : Calm session) (found : session.tiles[raster]? = some tile)
    (change : ConsumerChange session raster tile next) : Calm next := by
  have locally := calm.locally tile (List.mem_of_getElem? found)
  cases change with
  | refused => exact calm
  | began | took | counted =>
      exact ⟨calm.cancelled, calm.live, calm.owner, calm.locally_set _ locally⟩

theorem Untroubled.calm (placed : plan.manifest.Placed) (untroubled : Untroubled plan session) :
    Calm session := by
  induction untroubled with
  | start created =>
      obtain ⟨fields, _, tiles⟩ := create_eq_ok created
      refine ⟨by rw [fields], by rw [fields]; rfl, .inl (by rw [fields]), ?_⟩
      intro tile member
      obtain ⟨raster, found⟩ := List.mem_iff_getElem?.mp member
      obtain ⟨_, _, _, _, rfl⟩ := tiles raster tile found
      rfl
  | @step session next action untroubled stepped spared spawned own calm =>
      have meeting := untroubled.reachable.rendezvous placed.size
      have open_before : session.phase ≠ .closed := by
        intro closed
        have live := calm.live
        rw [closed] at live
        exact Bool.noConfusion live
      -- Nobody is shutting down, so the last worker that leaves finds the owner still to come.
      have opened : next.phase ≠ .closed := by
        intro closed
        have stops := (meeting.closing_step open_before stepped closed).1
        rw [calm.isShuttingDown] at stops
        exact Bool.noConfusion stops
      have known := calm.owner
      cases stepChange_of_step stepped with
      | prefetch => exact ⟨calm.cancelled, calm.live, .inr (.inl rfl), calm.locally⟩
      | prefetchAnswered => exact ⟨calm.cancelled, calm.live, .inl rfl, calm.locally⟩
      | shutdown | shutdownAnswered => exact absurd rfl spared
      | owner starts change => exact calm.ownerStep change spawned
      | worker raster tile found change => exact calm.workerStep found change opened own
      | consumer raster tile found change => exact calm.consumerStep found change
      | roused generation call =>
          rw [call] at known
          simp at known

/-- Up to what its consumer took, a tile of an untroubled session is where its worker would have
come to on its own. -/
theorem Untroubled.alone (placed : plan.manifest.Placed) (untroubled : Untroubled plan session)
    (declared : plan.manifest.videoSets[raster]? = some video)
    (found : session.tiles[raster]? = some tile) :
    ∃ tileIndex steps, plan.manifest.tileIndex video.tile = .ok tileIndex ∧
      tile.alone = course plan raster (.start video.tile video.extent tileIndex) steps := by
  induction untroubled generalizing tile with
  | start created =>
      obtain ⟨other, tileIndex, at_raster, numbered, rfl⟩ :=
        (create_eq_ok created).2.2 raster tile found
      obtain rfl := Option.some.inj (declared.symm.trans at_raster)
      exact ⟨tileIndex, 0, numbered, rfl⟩
  | step action untroubled stepped _ _ _ ih =>
      have meeting := untroubled.reachable.rendezvous placed.size
      have calm := untroubled.calm placed
      obtain ⟨before, at_raster, change⟩ := meeting.tileChange stepped found
      obtain ⟨tileIndex, steps, numbered, followed⟩ := ih at_raster
      cases change with
      | kept _ => exact ⟨tileIndex, steps, numbered, followed⟩
      | worked _ _ change tiles =>
          have locally := calm.locally before (List.mem_of_getElem? at_raster)
          obtain ⟨other, same, advanced⟩ := change.advances calm.cancelled locally
          obtain rfl := eq_of_set at_raster tiles same
          refine ⟨tileIndex, steps + 1, numbered, ?_⟩
          rw [course, ← followed, ← advanced]
          rfl
      | started starts _ call =>
          have idle := meeting.unstarted call at_raster
          refine ⟨tileIndex, steps + 1, numbered, ?_⟩
          rw [course, ← followed, advance, TileState.alone_stage, idle]
          rfl
      | polled queue consumer _ _ => exact ⟨tileIndex, steps, numbered, followed⟩

/-- Whatever the fetches of other tiles are answered, and in whatever order the threads take their
steps, the events queued for a tile are beginnings of one stream. In untroubled runs they are the
same once its worker is done, and the session goes on. -/
theorem tiles_fail_alone {document : String}
    (parsed : Manifest.parse document = .ok plan.manifest)
    (own : answer raster = plan.answer raster)
    (declared : plan.manifest.videoSets[raster]? = some video) :
    (∀ (session : Session plan) (other : Session { plan with answer })
        (tile twin : TileState plan.engine),
      Reachable plan session → Reachable { plan with answer } other →
      session.tiles[raster]? = some tile → other.tiles[raster]? = some twin →
      tile.history <+: twin.history ∨ twin.history <+: tile.history) ∧
    (∀ (session : Session plan) (other : Session { plan with answer })
        (tile twin : TileState plan.engine),
      Untroubled plan session → Untroubled { plan with answer } other →
      session.tiles[raster]? = some tile → other.tiles[raster]? = some twin →
      tile.stage.isStopping = true → twin.stage.isStopping = true →
      tile.history = twin.history) ∧
    (∀ session, Untroubled plan session →
      session.phase.isLive = true ∧ session.cancelled = false) := by
  have placed := Manifest.parse_placed parsed
  have also_placed : (Plan.manifest { plan with answer }).Placed := placed
  refine ⟨?_, ?_, ?_⟩
  · intro session other tile twin reached also found at_other
    have begins := (reached.follows placed declared found).stands.begins
    have also_begins := (also.follows also_placed declared at_other).stands.begins
    exact begins.comparable (Plan.begins_congr own also_begins)
  · intro session other tile twin untroubled also found at_other stopped also_stopped
    obtain ⟨tileIndex, steps, numbered, followed⟩ := untroubled.alone placed declared found
    obtain ⟨index, others, indexed, also_followed⟩ := also.alone also_placed declared at_other
    obtain rfl := Except.ok.inj (numbered.symm.trans indexed)
    rw [course_congr own] at also_followed
    rw [← TileState.alone_stage, followed] at stopped
    rw [← TileState.alone_stage, also_followed] at also_stopped
    rw [← TileState.alone_history tile, followed, ← TileState.alone_history twin, also_followed]
    exact course_history_unique stopped also_stopped
  · intro session untroubled
    have calm := untroubled.calm placed
    exact ⟨calm.live, calm.cancelled⟩

section Duo

def spares (_ next : Session plan) (action : Action) : Bool :=
  decide (action ≠ .shutdown) && next.tiles.all fun tile =>
    match tile.stage with
    | .ending error => error.isTileLocal
    | _ => true

def leavesUntroubled (session next : Session plan) (action : Action) : Bool :=
  let spawned := match next.owner with
    | .discarding _ => false
    | _ => true
  spawned && spares session next action

theorem Untroubled.run {actions : List Action} (untroubled : Untroubled plan session)
    (ran : runWhile leavesUntroubled actions session = some next) : Untroubled plan next := by
  apply runWhile_keeps untroubled ran
  intro session next action untroubled stepped allowed
  simp only [leavesUntroubled, spares, Bool.and_eq_true, decide_eq_true_eq, List.all_eq_true]
    at allowed
  obtain ⟨spawned, spared, own⟩ := allowed
  refine untroubled.step action stepped spared ?_ ?_
  · intro raster call
    rw [call] at spawned
    exact Bool.noConfusion spawned
  · intro tile member error status
    have known := own tile member
    rwa [status] at known

def duo : Presentation :=
  { Presentation.tiled 2 1 with ladder := [{ id := 1, bandwidth := 1200000 }] }

theorem duo_fits : duo.Fits :=
  { solo_fits with
    columns := by decide
    rows := by decide
    tiles := by decide
    width := by decide
    height := by decide }

def duoPlan : Plan := { soloPlan with manifest := duo.manifest }

def duoAnswer (raster place : Nat) (url : String) : Except StreamError Bytes :=
  if raster = 0 then .error (.badResponse "not found") else soloPlan.answer raster place url

theorem duo_fails_alone :
    ∃ (document : String) (video : VideoSet) (session : Session duoPlan)
      (other : Session { duoPlan with answer := duoAnswer })
      (tile twin : TileState soloPlan.engine),
      Manifest.parse document = .ok duoPlan.manifest ∧ duoAnswer 1 = duoPlan.answer 1 ∧
      duoPlan.manifest.videoSets[1]? = some video ∧
      Untroubled duoPlan session ∧ Untroubled { duoPlan with answer := duoAnswer } other ∧
      session.tiles[1]? = some tile ∧ other.tiles[1]? = some twin ∧
      session.tiles.map (·.history.length) = [2, 2] ∧
      other.tiles.map (·.history.length) = [1, 2] ∧ tile.history = twin.history ∧
      session.phase = .streaming ∧ session.cancelled = false := by
  obtain ⟨document, _, parsed⟩ := Presentation.parse_document duo_fits
  have own : duoAnswer 1 = duoPlan.answer 1 := rfl
  have declared : duoPlan.manifest.videoSets[1]? = some (duo.videoSet { x := 1, y := 0 }) := rfl
  obtain ⟨session, tile, untroubled, found, stopped, lengths, streaming⟩ :
      ∃ (session : Session duoPlan) (tile : TileState soloPlan.engine),
        Untroubled duoPlan session ∧ session.tiles[1]? = some tile ∧
          tile.stage.isStopping = true ∧ session.tiles.map (·.history.length) = [2, 2] ∧
          session.phase = .streaming := by
    have started : create duoPlan = .ok _ := rfl
    exact ⟨_, _, (Untroubled.start started).run (show runWhile leavesUntroubled
      ([.prefetch, .owner true, .owner true, .owner true] ++ List.replicate 18 (.worker 0) ++
        List.replicate 18 (.worker 1)) _ = some _ from rfl), rfl, rfl, rfl, rfl⟩
  obtain ⟨other, twin, also, at_other, also_stopped, other_lengths⟩ :
      ∃ (other : Session { duoPlan with answer := duoAnswer }) (twin : TileState soloPlan.engine),
        Untroubled _ other ∧ other.tiles[1]? = some twin ∧ twin.stage.isStopping = true ∧
          other.tiles.map (·.history.length) = [1, 2] := by
    have started : create { duoPlan with answer := duoAnswer } = .ok _ := rfl
    exact ⟨_, _, (Untroubled.start started).run (show runWhile leavesUntroubled
      ([.prefetch, .owner true, .owner true, .owner true] ++ List.replicate 8 (.worker 1) ++
        List.replicate 6 (.worker 0) ++ List.replicate 10 (.worker 1)) _ = some _ from rfl),
      rfl, rfl, rfl⟩
  obtain ⟨_, same, calm⟩ := tiles_fail_alone parsed own declared
  exact ⟨document, _, session, other, tile, twin, parsed, own, declared, untroubled, also, found,
    at_other, lengths, other_lengths,
    same session other tile twin untroubled also found at_other stopped also_stopped, streaming,
    (calm session untroubled).2⟩

/-- A worker that gets no thread stops the whole session, though no tile met an error that is not its
own. -/
theorem threadless_worker_troubles :
    ∃ (document : String) (first session other : Session duoPlan)
      (tile twin : TileState soloPlan.engine),
      Manifest.parse document = .ok duoPlan.manifest ∧ create duoPlan = .ok first ∧
      (∃ actions, runWhile spares actions first = some session) ∧ Untroubled duoPlan other ∧
      session.tiles[0]? = some tile ∧ other.tiles[0]? = some twin ∧
      tile.isGone = true ∧ twin.isGone = true ∧ tile.history ≠ twin.history ∧
      session.phase = .draining ∧ session.cancelled = true := by
  obtain ⟨document, _, parsed⟩ := Presentation.parse_document duo_fits
  obtain ⟨first, session, tile, started, ran, found, gone, queued, phase, cancelled⟩ :
      ∃ (first session : Session duoPlan) (tile : TileState soloPlan.engine),
        create duoPlan = .ok first ∧ (∃ actions, runWhile spares actions first = some session) ∧
          session.tiles[0]? = some tile ∧ tile.isGone = true ∧ tile.history = [] ∧
          session.phase = .draining ∧ session.cancelled = true := by
    have started : create duoPlan = .ok _ := rfl
    exact ⟨_, _, _, started, ⟨_, show runWhile spares
      ([.prefetch, .owner true, .owner true, .owner false] ++ List.replicate 6 (.owner true) ++
        List.replicate 4 (.worker 0)) _ = some _ from rfl⟩, rfl, rfl, rfl, rfl, rfl⟩
  obtain ⟨other, twin, untroubled, at_other, also_gone, some⟩ :
      ∃ (other : Session duoPlan) (twin : TileState soloPlan.engine),
        Untroubled duoPlan other ∧ other.tiles[0]? = some twin ∧ twin.isGone = true ∧
          twin.history ≠ [] := by
    have started : create duoPlan = .ok _ := rfl
    exact ⟨_, _, (Untroubled.start started).run (show runWhile leavesUntroubled
      ([.prefetch, .owner true, .owner true, .owner true] ++ List.replicate 19 (.worker 0)) _ =
        some _ from rfl), rfl, rfl, List.cons_ne_nil _ _⟩
  exact ⟨document, first, session, other, tile, twin, parsed, started, ran, untroubled, found,
    at_other, gone, also_gone, fun same => some (same.symm.trans queued), phase, cancelled⟩

end Duo

end Session

end TiledStream
