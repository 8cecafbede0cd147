import TiledStream.Session.Step

/-! All that a step of a session can do, thread by thread. -/

namespace TiledStream.Session

variable {plan : Plan} {session next : Session plan}

@[simp] theorem met_tiles (session : Session plan) (result : Bool × Barrier) :
    (session.met result).tiles = session.tiles := by
  unfold met
  split <;> rfl

inductive WorkerChange (session : Session plan) (raster : Nat) (tile : TileState plan.engine) :
    Session plan → Prop where
  | requested (held : Option Buffers) (request : SegmentRequest) (streamer : Streamer) :
      tile.stage = .requesting held →
      tile.streamer.request plan.manifest plan.manifestUrl plan.choose session.cancelled =
        (.ok request, streamer) →
      WorkerChange session raster tile
        (session.setTile raster { tile with streamer, stage := .recording request held })
  | refused (held : Option Buffers) (failure : Failure) (streamer : Streamer) :
      tile.stage = .requesting held →
      tile.streamer.request plan.manifest plan.manifestUrl plan.choose session.cancelled =
        (.error failure, streamer) →
      WorkerChange session raster tile
        (session.setTile raster { tile with streamer, stage := stageAfter failure })
  | recorded (request : SegmentRequest) (held : Option Buffers) :
      tile.stage = .recording request held →
      WorkerChange session raster tile
        { session.setTile raster { tile with stage := .publishing request held } with
          metrics := session.metrics.representationSelected tile.streamer.tileIndex
            request.representation }
  | published (request : SegmentRequest) (held : Option Buffers) :
      tile.stage = .publishing request held →
      WorkerChange session raster tile
        (session.setTile raster { tile with
          stats := {
            tileIndex := tile.streamer.tileIndex
            segmentsRequested := tile.streamer.segmentsRequested
            lastRepresentation := tile.streamer.trace.getLast? }
          stage := match held with
            | some buffers => .opening request buffers
            | none => .waiting request })
  | received (request : SegmentRequest) (buffers : Buffers) :
      tile.stage = .waiting request →
      request.await (answerAt plan raster tile.streamer) session.cancelled = .ok buffers →
      WorkerChange session raster tile
        (session.setTile raster { tile with stage := .requesting (some buffers) })
  | missed (request : SegmentRequest) (error : StreamError) :
      tile.stage = .waiting request →
      request.await (answerAt plan raster tile.streamer) session.cancelled = .error error →
      WorkerChange session raster tile
        (session.setTile raster { tile with stage := .ending error })
  | opened (following : SegmentRequest) (buffers : Buffers) (source : FrameSource plan.engine) :
      tile.stage = .opening following buffers →
      FrameSource.ofSegment plan.engine buffers.initial buffers.media plan.concurrency =
        .ok source →
      WorkerChange session raster tile
        (session.setTile raster { tile with
          stage := .decoding { following, buffers, source, index := 0, batch := [] } })
  | unopened (following : SegmentRequest) (buffers : Buffers) (failure : Failure) :
      tile.stage = .opening following buffers →
      FrameSource.ofSegment plan.engine buffers.initial buffers.media plan.concurrency =
        .error failure →
      WorkerChange session raster tile
        (session.setTile raster { tile with stage := stageAfter failure })
  | picked (work : Decoding plan.engine) (frame : Frame) (rest : List Frame) :
      tile.stage = .decoding work → work.batch = frame :: rest →
      WorkerChange session raster tile
        (session.setTile raster { tile with
          stage := .writing { work with batch := rest, index := work.index + 1 }
            (work.tagged tile.extent frame) })
  | decoded (work : Decoding plan.engine) (batch : List Frame) (source : FrameSource plan.engine) :
      tile.stage = .decoding work → work.batch = [] → work.source.hasMore = true →
      work.source.round = (.ok batch, source) →
      WorkerChange session raster tile
        (session.setTile raster { tile with stage := .decoding { work with source, batch } })
  | undecoded (work : Decoding plan.engine) (failure : Failure)
      (source : FrameSource plan.engine) :
      tile.stage = .decoding work → work.batch = [] → work.source.hasMore = true →
      work.source.round = (.error failure, source) →
      WorkerChange session raster tile
        (session.setTile raster { tile with stage := stageAfter failure })
  | finished (work : Decoding plan.engine) :
      tile.stage = .decoding work → work.batch = [] → work.source.hasMore = false →
      WorkerChange session raster tile
        (session.setTile raster { tile with stage := .waiting work.following })
  | wrote (work : Decoding plan.engine) (frame : Frame) (queue : BoundedQueue TileEvent) :
      tile.stage = .writing work frame →
      tile.queue.attempt (.frame frame) session.cancelled = .written queue →
      WorkerChange session raster tile
        (session.setTile raster { tile with
          queue
          history := tile.history ++ [.frame frame]
          stage := .counting work })
  | abandoned (work : Decoding plan.engine) (frame : Frame) :
      tile.stage = .writing work frame →
      tile.queue.attempt (.frame frame) session.cancelled = .abandoned →
      WorkerChange session raster tile
        (session.setTile raster { tile with stage := .ending .aborted })
  | counted (work : Decoding plan.engine) :
      tile.stage = .counting work →
      WorkerChange session raster tile
        { session.setTile raster { tile with stage := .promoting work } with
          metrics := session.metrics.frameProduced tile.streamer.tileIndex }
  | promoted (work : Decoding plan.engine) :
      tile.stage = .promoting work →
      WorkerChange session raster tile
        { session.setTile raster { tile with stage := .decoding work } with
          phase := if session.phase = .prefetching then .streaming else session.phase }
  | ended (error : StreamError) :
      tile.stage = .ending error →
      WorkerChange session raster tile
        { session.setTile raster { tile with stage := stageAfterEnd error } with
          terminated := true }
  | marked (event : TileEvent) (fatal : Bool) (queue : BoundedQueue TileEvent) :
      tile.stage = .marking event fatal →
      tile.queue.attempt event session.cancelled = .written queue →
      WorkerChange session raster tile
        (session.setTile raster { tile with
          queue
          history := tile.history ++ [event]
          stage := stageAfterMark fatal })
  | unmarked (event : TileEvent) (fatal : Bool) :
      tile.stage = .marking event fatal →
      tile.queue.attempt event session.cancelled = .abandoned →
      WorkerChange session raster tile
        (session.setTile raster { tile with stage := stageAfterMark fatal })
  | drains (drain following : Drain) :
      tile.stage = .draining drain → (drain.step session.phase).1 = some following →
      WorkerChange session raster tile
        ((session.setTile raster { tile with stage := .draining following }).drained
          (drain.step session.phase))
  | drainsLast (drain : Drain) :
      tile.stage = .draining drain → (drain.step session.phase).1 = none →
      WorkerChange session raster tile
        ((session.setTile raster { tile with stage := .exiting }).drained
          (drain.step session.phase))
  | exited :
      tile.stage = .exiting →
      WorkerChange session raster tile
        { session.setTile raster { tile with stage := .leaving } with
          exited := session.exited + 1 }
  | left :
      tile.stage = .leaving →
      WorkerChange session raster tile
        ((session.setTile raster { tile with stage := .gone }).met session.barrier.leave)

theorem queueEvent_eq_some {raster : Nat}
    {tile : TileState plan.engine} {event : TileEvent} {written abandoned : Stage plan.engine}
    (queued : session.queueEvent raster tile event written abandoned = some next) :
    (∃ queue, tile.queue.attempt event session.cancelled = .written queue ∧
      next = session.setTile raster
        { tile with queue, history := tile.history ++ [event], stage := written }) ∨
    (tile.queue.attempt event session.cancelled = .abandoned ∧
      next = session.setTile raster { tile with stage := abandoned }) := by
  unfold queueEvent at queued
  split at queued
  · rename_i queue outcome
    exact .inl ⟨queue, outcome, (Option.some.inj queued).symm⟩
  · rename_i outcome
    exact .inr ⟨outcome, (Option.some.inj queued).symm⟩
  · simp at queued

theorem workerChange_of_step {raster : Nat}
    (stepped : session.workerStep raster = some next) :
    ∃ tile, session.tiles[raster]? = some tile ∧ WorkerChange session raster tile next := by
  unfold workerStep at stepped
  split at stepped
  · simp at stepped
  · rename_i tile found
    refine ⟨tile, found, ?_⟩
    dsimp only at stepped
    cases status : tile.stage with
    | unstarted | gone => simp [status] at stepped
    | requesting held =>
        simp only [status, Option.some.injEq] at stepped
        subst stepped
        rcases asked : tile.streamer.request plan.manifest plan.manifestUrl plan.choose
          session.cancelled with ⟨failure | request, streamer⟩
        · exact .refused held failure streamer status asked
        · exact .requested held request streamer status asked
    | recording request held =>
        simp only [status, Option.some.injEq] at stepped
        subst stepped
        exact .recorded request held status
    | publishing request held =>
        simp only [status, Option.some.injEq] at stepped
        subst stepped
        exact .published request held status
    | waiting request =>
        simp only [status] at stepped
        split at stepped
        · rename_i buffers answered
          obtain rfl := Option.some.inj stepped
          exact .received request buffers status answered
        · rename_i error answered
          obtain rfl := Option.some.inj stepped
          exact .missed request error status answered
    | opening following buffers =>
        simp only [status] at stepped
        split at stepped
        · rename_i source outcome
          obtain rfl := Option.some.inj stepped
          exact .opened following buffers source status outcome
        · rename_i failure outcome
          obtain rfl := Option.some.inj stepped
          exact .unopened following buffers failure status outcome
    | decoding work =>
        simp only [status, Option.some.injEq] at stepped
        subst stepped
        unfold decode
        split
        · rename_i frame rest batch
          exact .picked work frame rest status batch
        · rename_i batch
          split
          · rename_i more
            split
            · rename_i frames source outcome
              exact .decoded work frames source status batch more outcome
            · rename_i failure source outcome
              exact .undecoded work failure source status batch more outcome
          · rename_i flushed
            exact .finished work status batch (Bool.eq_false_iff.mpr flushed)
    | writing work frame =>
        simp only [status] at stepped
        rcases queueEvent_eq_some stepped with ⟨queue, outcome, rfl⟩ | ⟨outcome, rfl⟩
        · exact .wrote work frame queue status outcome
        · exact .abandoned work frame status outcome
    | counting work =>
        simp only [status, Option.some.injEq] at stepped
        subst stepped
        exact .counted work status
    | promoting work =>
        simp only [status, Option.some.injEq] at stepped
        subst stepped
        exact .promoted work status
    | ending error =>
        simp only [status, Option.some.injEq] at stepped
        subst stepped
        exact .ended error status
    | marking event fatal =>
        simp only [status] at stepped
        rcases queueEvent_eq_some stepped with ⟨queue, outcome, rfl⟩ | ⟨outcome, rfl⟩
        · exact .marked event fatal queue status outcome
        · exact .unmarked event fatal status outcome
    | draining drain =>
        simp only [status, Option.some.injEq] at stepped
        subst stepped
        rcases result : (drain.step session.phase).1 with _ | following
        · exact .drainsLast drain status result
        · exact .drains drain following status result
    | exiting =>
        simp only [status, Option.some.injEq] at stepped
        subst stepped
        exact .exited status
    | leaving =>
        simp only [status, Option.some.injEq] at stepped
        subst stepped
        exact .left status

inductive OwnerChange (session : Session plan) : Session plan → Prop where
  | opened :
      session.owner = .swapping → session.phase = .created →
      OwnerChange session { session with
        phase := .prefetching
        barrier := Barrier.start (plan.manifest.tileCount + 1)
        holdsBarrier := true
        owner := .starting 0 }
  | unopened :
      session.owner = .swapping → session.phase ≠ .created →
      OwnerChange session (session.finish (.error .sessionClosed))
  | startedAll (raster : Nat) :
      session.owner = .starting raster → session.tiles[raster]? = none →
      OwnerChange session (session.finish (.ok ()))
  | started (raster : Nat) (tile : TileState plan.engine) :
      session.owner = .starting raster → session.tiles[raster]? = some tile →
      OwnerChange session { session.setTile raster { tile with stage := .requesting none } with
        workers := session.workers + 1
        owner := .starting (raster + 1) }
  | unstarted (raster : Nat) (tile : TileState plan.engine) :
      session.owner = .starting raster → session.tiles[raster]? = some tile →
      OwnerChange session { session with owner := .discarding raster }
  | discarded (raster : Nat) :
      session.owner = .discarding raster →
      OwnerChange session { session with exited := session.exited + 1, owner := .dropping raster }
  | dropped (raster : Nat) :
      session.owner = .dropping raster →
      OwnerChange session
        ({ session with owner := .withdrawing raster .look }.met session.barrier.leave)
  | withdraws (raster : Nat) (drain following : Drain) :
      session.owner = .withdrawing raster drain →
      (drain.step session.phase).1 = some following →
      OwnerChange session
        ({ session with owner := .withdrawing raster following }.drained
          (drain.step session.phase))
  | withdrawn (raster : Nat) (drain : Drain) :
      session.owner = .withdrawing raster drain → (drain.step session.phase).1 = none →
      OwnerChange session
        ({ session with owner := .releasing (plan.manifest.tileCount - (raster + 1)) }.drained
          (drain.step session.phase))
  | releasedAll :
      session.owner = .releasing 0 → OwnerChange session (session.finish (.error .aborted))
  | released (left : Nat) :
      session.owner = .releasing (left + 1) →
      OwnerChange session ({ session with owner := .releasing left }.met session.barrier.leave)
  | retires (drain following : Drain) :
      session.owner = .retiring drain → (drain.step session.phase).1 = some following →
      OwnerChange session
        ({ session with owner := .retiring following }.drained (drain.step session.phase))
  | retired (drain : Drain) :
      session.owner = .retiring drain → (drain.step session.phase).1 = none →
      OwnerChange session
        ({ session with owner := if session.holdsBarrier then .arriving else .closing }.drained
          (drain.step session.phase))
  | arrived :
      session.owner = .arriving →
      OwnerChange session
        ({ session with
          holdsBarrier := false
          owner := if session.barrier.arrive.1 then .joining
            else .parked session.barrier.generation }.met session.barrier.arrive)
  | sleepsAgain (generation : Nat) :
      session.owner = .woken generation → session.barrier.generation = generation →
      OwnerChange session { session with owner := .parked generation }
  | wentOn (generation : Nat) :
      session.owner = .woken generation → session.barrier.generation ≠ generation →
      OwnerChange session { session with owner := .joining }
  | closed :
      session.owner = .closing →
      OwnerChange session { session with phase := .closed, owner := .joining }
  | joined :
      session.owner = .joining →
      (session.tiles.all fun tile => !tile.isStarted || tile.isGone) = true →
      OwnerChange session ({ session with workers := 0 }.finish (.ok ()))

theorem ownerChange_of_step {starts : Bool}
    (stepped : session.ownerStep starts = some next) : OwnerChange session next := by
  unfold ownerStep at stepped
  cases call : session.owner with
  | idle | parked generation => simp [call] at stepped
  | swapping =>
      simp only [call] at stepped
      split at stepped
      · rename_i created
        obtain rfl := Option.some.inj stepped
        exact .opened call created
      · rename_i created
        obtain rfl := Option.some.inj stepped
        exact .unopened call created
  | starting raster =>
      simp only [call, Option.some.injEq] at stepped
      subst stepped
      unfold startWorker
      split
      · rename_i found
        exact .startedAll raster call found
      · rename_i tile found
        cases starts with
        | true => exact .started raster tile call found
        | false => exact .unstarted raster tile call found
  | discarding raster =>
      simp only [call, Option.some.injEq] at stepped
      subst stepped
      exact .discarded raster call
  | dropping raster =>
      simp only [call, Option.some.injEq] at stepped
      subst stepped
      exact .dropped raster call
  | withdrawing raster drain =>
      simp only [call, Option.some.injEq] at stepped
      subst stepped
      rcases result : (drain.step session.phase).1 with _ | following
      · exact .withdrawn raster drain call result
      · exact .withdraws raster drain following call result
  | releasing left =>
      cases left with
      | zero =>
          simp only [call, Option.some.injEq] at stepped
          subst stepped
          exact .releasedAll call
      | succ left =>
          simp only [call, Option.some.injEq] at stepped
          subst stepped
          exact .released left call
  | retiring drain =>
      simp only [call, Option.some.injEq] at stepped
      subst stepped
      rcases result : (drain.step session.phase).1 with _ | following
      · exact .retired drain call result
      · exact .retires drain following call result
  | arriving =>
      simp only [call, Option.some.injEq] at stepped
      subst stepped
      exact .arrived call
  | woken generation =>
      simp only [call] at stepped
      split at stepped
      · rename_i same
        obtain rfl := Option.some.inj stepped
        exact .sleepsAgain generation call same
      · rename_i different
        obtain rfl := Option.some.inj stepped
        exact .wentOn generation call different
  | closing =>
      simp only [call, Option.some.injEq] at stepped
      subst stepped
      exact .closed call
  | joining =>
      simp only [call] at stepped
      split at stepped
      · rename_i all
        obtain rfl := Option.some.inj stepped
        exact .joined call all
      · simp at stepped

inductive ConsumerChange (session : Session plan) (raster : Nat) (tile : TileState plan.engine) :
    Session plan → Prop where
  | refused :
      tile.consumer = .idle → session.phase = .closed →
      ConsumerChange session raster tile session
  | began :
      tile.consumer = .idle → session.phase ≠ .closed →
      ConsumerChange session raster tile
        (session.setTile raster { tile with consumer := .taking })
  | took (consumer : Consumer) :
      tile.consumer = .taking →
      consumer = (if (tile.queue.take.1.bind (·.frame?)).isSome then .counting else .idle) →
      ConsumerChange session raster tile
        (session.setTile raster { tile with queue := tile.queue.take.2, consumer })
  | counted :
      tile.consumer = .counting →
      ConsumerChange session raster tile
        ((session.setTile raster { tile with consumer := .idle }).countConsumed
          tile.streamer.tileIndex)

theorem consumerChange_of_step {raster : Nat}
    (stepped : session.consumerStep raster = some next) :
    ∃ tile, session.tiles[raster]? = some tile ∧ ConsumerChange session raster tile next := by
  unfold consumerStep at stepped
  split at stepped
  · simp at stepped
  · rename_i tile found
    refine ⟨tile, found, ?_⟩
    cases status : tile.consumer with
    | idle =>
        simp only [status] at stepped
        split at stepped
        · rename_i closed
          obtain rfl := Option.some.inj stepped
          exact .refused status closed
        · rename_i live
          obtain rfl := Option.some.inj stepped
          exact .began status live
    | taking =>
        simp only [status, Option.some.injEq] at stepped
        subst stepped
        exact .took _ status rfl
    | counting =>
        simp only [status, Option.some.injEq] at stepped
        subst stepped
        exact .counted status

inductive StepChange (session : Session plan) : Action → Session plan → Prop where
  | prefetch :
      session.owner = .idle → session.phase = .created →
      StepChange session .prefetch { session with owner := .swapping }
  | prefetchAnswered (returned : Except StreamError Unit) :
      session.owner = .idle → session.phase ≠ .created →
      StepChange session .prefetch (session.finish returned)
  | shutdown :
      session.owner = .idle → session.phase ≠ .closed →
      StepChange session .shutdown { session with owner := .retiring .look }
  | shutdownAnswered :
      session.owner = .idle → session.phase = .closed →
      StepChange session .shutdown (session.finish (.ok ()))
  | owner (starts : Bool) {next : Session plan} :
      OwnerChange session next → StepChange session (.owner starts) next
  | worker (raster : Nat) (tile : TileState plan.engine) {next : Session plan} :
      session.tiles[raster]? = some tile → WorkerChange session raster tile next →
      StepChange session (.worker raster) next
  | consumer (raster : Nat) (tile : TileState plan.engine) {next : Session plan} :
      session.tiles[raster]? = some tile → ConsumerChange session raster tile next →
      StepChange session (.consumer raster) next
  | roused (generation : Nat) :
      session.owner = .parked generation →
      StepChange session .rouse { session with owner := .woken generation }

theorem stepChange_of_prefetch (idle : session.owner = .idle) :
    StepChange session .prefetch session.callPrefetch := by
  unfold callPrefetch
  split
  · rename_i created
    exact .prefetch idle created
  all_goals
    rename_i opened
    exact .prefetchAnswered _ idle (by simp [opened])

theorem stepChange_of_shutdown (idle : session.owner = .idle) :
    StepChange session .shutdown session.callShutdown := by
  by_cases closed : session.phase = .closed
  · rw [callShutdown, if_pos closed]
    exact .shutdownAnswered idle closed
  · rw [callShutdown, if_neg closed]
    exact .shutdown idle closed

theorem stepChange_of_step {action : Action}
    (stepped : session.step action = some next) : StepChange session action next := by
  cases action with
  | prefetch =>
      simp only [Session.step] at stepped
      split at stepped
      · rename_i idle
        obtain rfl := Option.some.inj stepped
        exact stepChange_of_prefetch idle
      · simp at stepped
  | shutdown =>
      simp only [Session.step] at stepped
      split at stepped
      · rename_i idle
        obtain rfl := Option.some.inj stepped
        exact stepChange_of_shutdown idle
      · simp at stepped
  | owner starts => exact .owner starts (ownerChange_of_step stepped)
  | worker raster =>
      obtain ⟨tile, found, change⟩ := workerChange_of_step stepped
      exact .worker raster tile found change
  | consumer raster =>
      obtain ⟨tile, found, change⟩ := consumerChange_of_step stepped
      exact .consumer raster tile found change
  | rouse =>
      simp only [Session.step] at stepped
      split at stepped
      · rename_i generation call
        obtain rfl := Option.some.inj stepped
        exact .roused generation call
      · simp at stepped

inductive Later (session : Session plan) : Session plan → Prop where
  | refl : Later session session
  | step {between next : Session plan} (action : Action) :
      Later session between → between.step action = some next → Later session next

theorem Reachable.later (reached : Reachable plan session)
    (later : Later session next) : Reachable plan next := by
  induction later with
  | refl => exact reached
  | step action _ stepped ih => exact ih.step action stepped

def runWhile (allows : (session next : Session plan) → Action → Bool) :
    List Action → Session plan → Option (Session plan)
  | [], session => some session
  | action :: rest, session =>
    match session.step action with
    | some next => if allows session next action then runWhile allows rest next else none
    | none => none

def run (actions : List Action) (session : Session plan) : Option (Session plan) :=
  runWhile (fun _ _ _ => true) actions session

theorem runWhile_keeps {allows : (session next : Session plan) → Action → Bool}
    {holds : Session plan → Prop} {actions : List Action} (before : holds session)
    (ran : runWhile allows actions session = some next)
    (keeps : ∀ session next action, holds session → session.step action = some next →
      allows session next action = true → holds next) : holds next := by
  induction actions generalizing session with
  | nil =>
      obtain rfl : session = next := Option.some.inj ran
      exact before
  | cons action actions ih =>
      rw [runWhile] at ran
      split at ran
      · rename_i between stepped
        split at ran
        · rename_i allowed
          exact ih (keeps session between action before stepped allowed) ran
        · simp at ran
      · simp at ran

theorem Reachable.run {actions : List Action} (reached : Reachable plan session)
    (ran : session.run actions = some next) : Reachable plan next :=
  runWhile_keeps reached ran fun _ _ action reached stepped _ => reached.step action stepped

end TiledStream.Session
