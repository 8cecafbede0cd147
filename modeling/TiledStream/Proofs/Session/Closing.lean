import TiledStream.Proofs.Session.Runs

/-! A session closes once, while its owner shuts it down and after all of its workers have left, and
stands still from then on. -/

namespace TiledStream

/-- What the workers and the owner leave of a tile. A consumer may still take what was queued. -/
structure TileState.Rests {engine : Engine} (before after : TileState engine) : Prop where
  stage : after.stage = before.stage
  streamer : after.streamer = before.streamer
  stats : after.stats = before.stats
  history : after.history = before.history
  queue : after.queue.items <:+ before.queue.items

theorem TileState.Rests.refl {engine : Engine} (tile : TileState engine) : tile.Rests tile :=
  { stage := rfl
    streamer := rfl
    stats := rfl
    history := rfl
    queue := List.suffix_rfl }

namespace Session

variable {plan : Plan} {session next later : Session plan} {raster : Nat}
  {tile after : TileState plan.engine}

theorem Rendezvous.of_closed (meeting : Rendezvous session) (closed : session.phase = .closed) :
    session.holdsBarrier = false ∧ ∀ tile ∈ session.tiles, tile.isActive = false := by
  have nobody := meeting.closed closed
  have inactive : session.tiles.countP (·.isActive) = 0 := by
    simp only [due] at nobody
    omega
  constructor
  · cases holds : session.holdsBarrier with
    | false => rfl
    | true =>
        simp only [due, holds, Bool.toNat_true] at nobody
        omega
  · intro tile member
    simpa using List.countP_eq_zero.mp inactive tile member

/-- A later state of a closed session differs only in what was polled meanwhile. -/
structure Rests (session later : Session plan) : Prop where
  closed : later.phase = .closed
  barrier : later.barrier = session.barrier
  exited : later.exited = session.exited
  produced : later.metrics.produced = session.metrics.produced
  representation : later.metrics.representation = session.metrics.representation
  tiles : ∀ (raster : Nat) (tile : TileState plan.engine), session.tiles[raster]? = some tile →
    ∃ after, later.tiles[raster]? = some after ∧ tile.Rests after
  unpolled : (∀ tile ∈ session.tiles, tile.consumer = .idle) →
    later.tiles = session.tiles ∧ later.metrics = session.metrics

theorem rests_of_tiles (closed : next.phase = .closed) (tiles : next.tiles = session.tiles)
    (barrier : next.barrier = session.barrier) (exited : next.exited = session.exited)
    (metrics : next.metrics = session.metrics) : session.Rests next :=
  { closed
    barrier
    exited
    produced := by rw [metrics]
    representation := by rw [metrics]
    tiles := fun raster tile found => by
      exact ⟨tile, by rw [tiles, found], .refl tile⟩
    unpolled := fun _ => ⟨tiles, metrics⟩ }

theorem Rests.trans {between : Session plan} (first : session.Rests between)
    (second : between.Rests later) : session.Rests later :=
  { closed := second.closed
    barrier := second.barrier.trans first.barrier
    exited := second.exited.trans first.exited
    produced := second.produced.trans first.produced
    representation := second.representation.trans first.representation
    tiles := fun raster tile found => by
      obtain ⟨middle, at_middle, before⟩ := first.tiles raster tile found
      obtain ⟨last, at_last, now⟩ := second.tiles raster middle at_middle
      exact ⟨last, at_last, {
        stage := now.stage.trans before.stage
        streamer := now.streamer.trans before.streamer
        stats := now.stats.trans before.stats
        history := now.history.trans before.history
        queue := now.queue.trans before.queue }⟩
    unpolled := fun idle => by
      obtain ⟨tiles, metrics⟩ := first.unpolled idle
      rw [← tiles] at idle
      obtain ⟨tiles_now, metrics_now⟩ := second.unpolled idle
      exact ⟨tiles_now.trans tiles, metrics_now.trans metrics⟩ }

theorem rests_setTile (metrics : Metrics) (closed : session.phase = .closed)
    (found : session.tiles[raster]? = some tile) (polling : tile.consumer ≠ .idle)
    (produced : metrics.produced = session.metrics.produced)
    (representation : metrics.representation = session.metrics.representation)
    (rests : tile.Rests after) :
    session.Rests { session.setTile raster after with metrics } :=
  { closed
    barrier := rfl
    exited := rfl
    produced
    representation
    tiles := fun index other at_index => by
      refine ⟨_, getElem?_set_of_found at_index, ?_⟩
      by_cases here : raster = index
      · subst here
        obtain rfl := Option.some.inj (found.symm.trans at_index)
        rw [if_pos rfl]
        exact rests
      · rw [if_neg here]
        exact .refl other
    unpolled := fun idle => absurd (idle tile (List.mem_of_getElem? found)) polling }

theorem rests_consumerStep (closed : session.phase = .closed)
    (found : session.tiles[raster]? = some tile)
    (change : ConsumerChange session raster tile next) : session.Rests next := by
  cases change with
  | refused idle _ => exact rests_of_tiles closed rfl rfl rfl rfl
  | began idle live => exact absurd closed live
  | took consumer taking =>
      apply rests_setTile session.metrics closed found (by simp [taking]) rfl rfl
      refine { stage := rfl, streamer := rfl, stats := rfl, history := rfl, queue := ?_ }
      exact ⟨_, tile.queue.take_items⟩
  | counted counting =>
      refine rests_setTile _ closed found (by simp [counting]) rfl rfl ?_
      exact { TileState.Rests.refl tile with }

theorem Rendezvous.rests_ownerStep (meeting : Rendezvous session)
    (closed : session.phase = .closed) (change : OwnerChange session next) :
    session.Rests next := by
  have known := meeting.fits
  have released : session.holdsBarrier ≠ true := by simp [meeting.of_closed closed]
  cases change with
  | opened call created => exact absurd (created.symm.trans closed) (by simp)
  | unopened call opened => exact rests_of_tiles closed rfl rfl rfl rfl
  | startedAll raster call found => exact rests_of_tiles closed rfl rfl rfl rfl
  | sleepsAgain generation call same => exact rests_of_tiles closed rfl rfl rfl rfl
  | wentOn generation call different => exact rests_of_tiles closed rfl rfl rfl rfl
  | closed call => exact rests_of_tiles rfl rfl rfl rfl rfl
  | joined call all => exact rests_of_tiles closed rfl rfl rfl rfl
  | releasedAll call => exact rests_of_tiles closed rfl rfl rfl rfl
  | started raster tile call found =>
      rw [call] at known
      exact absurd known.1 released
  | unstarted raster tile call found => exact rests_of_tiles closed rfl rfl rfl rfl
  | discarded raster call =>
      rw [call] at known
      exact absurd known.1 released
  | dropped raster call =>
      rw [call] at known
      exact absurd known.1 released
  | withdraws raster drain following call more =>
      rw [call] at known
      exact absurd known.1 released
  | withdrawn raster drain call done =>
      rw [call] at known
      exact absurd known.1 released
  | released left call =>
      rw [call] at known
      exact absurd known.1 released
  | retires drain following call more =>
      rw [call] at known
      exact absurd closed known.1
  | retired drain call done =>
      rw [call] at known
      exact absurd closed known.1
  | arrived call =>
      rw [call] at known
      exact absurd known released

theorem Rendezvous.rests_step {action : Action} (meeting : Rendezvous session)
    (closed : session.phase = .closed) (stepped : session.step action = some next) :
    session.Rests next := by
  cases stepChange_of_step stepped with
  | prefetch idle created => exact absurd (created.symm.trans closed) (by simp)
  | shutdown idle live => exact absurd closed live
  | prefetchAnswered | shutdownAnswered | roused => exact rests_of_tiles closed rfl rfl rfl rfl
  | owner starts change => exact meeting.rests_ownerStep closed change
  | worker raster tile found change =>
      -- No worker is left to take a step.
      have idle := (meeting.of_closed closed).2 tile (List.mem_of_getElem? found)
      have active := change.active
      rw [idle] at active
      exact Bool.noConfusion active
  | consumer raster tile found change => exact rests_consumerStep closed found change

theorem Rendezvous.rests_later (meeting : Rendezvous session) (closed : session.phase = .closed)
    (run : Later session later) : Rendezvous later ∧ session.Rests later := by
  induction run with
  | refl => exact ⟨meeting, rests_of_tiles closed rfl rfl rfl rfl⟩
  | step action _ stepped ih =>
      obtain ⟨meeting_between, rests⟩ := ih
      exact ⟨meeting_between.step stepped,
        rests.trans (meeting_between.rests_step rests.closed stepped)⟩

theorem idle_of_met {result : Bool × Barrier} (idle : (session.met result).owner = .idle) :
    session.owner = .idle := by
  unfold met at idle
  split at idle
  · simp only at idle
    split at idle
    · simp at idle
    · exact idle
  · exact idle

theorem Rendezvous.closing_workerStep (meeting : Rendezvous session)
    (live : session.phase ≠ .closed) (found : session.tiles[raster]? = some tile)
    (change : WorkerChange session raster tile next) (closed : next.phase = .closed) :
    session.owner.isShuttingDown = true ∧ next.owner.isShuttingDown = true := by
  rcases change.goesOn with ⟨after, goes⟩ | ⟨leaving, rfl⟩
  · exact absurd (goes.closed closed) live
  · by_cases last : session.barrier.pending ≤ 1
    · obtain ⟨_, _, waits⟩ := meeting.owner_of_last found change.active last
      rw [Barrier.leave_of_last last,
        met_of_last (session.setTile raster { tile with stage := .gone }) _ waits]
      refine ⟨?_, rfl⟩
      rcases waits with parked | woken
      · rw [parked]
        rfl
      · rw [woken]
        rfl
    · rw [Barrier.leave_of_others (by omega), met_of_others] at closed
      exact absurd closed live

/-- Leaving in place of a worker never completes the barrier: the owner itself is due. -/
theorem Rendezvous.closing_withdraws {owner : Owner} (meeting : Rendezvous session)
    (holds : session.holdsBarrier = true)
    (reserved : 0 < session.owner.reserved plan.manifest.tileCount) :
    (({ session with owner } : Session plan).met session.barrier.leave).phase ≠ .closed := by
  rw [Barrier.leave_of_others (meeting.others_due holds reserved), met_of_others]
  exact (meeting.of_holds holds).2.1

theorem Rendezvous.closing_ownerStep (meeting : Rendezvous session)
    (live : session.phase ≠ .closed) (change : OwnerChange session next)
    (closed : next.phase = .closed) :
    session.owner.isShuttingDown = true ∧ next.owner.isShuttingDown = true := by
  have known := meeting.fits
  cases change with
  | opened call created => simp at closed
  | unopened call opened => exact absurd closed live
  | startedAll raster call found => exact absurd closed live
  | started raster tile call found => exact absurd closed live
  | unstarted raster tile call found => exact absurd closed live
  | discarded raster call => exact absurd closed live
  | dropped raster call =>
      rw [call] at known
      refine absurd closed (meeting.closing_withdraws known.1 ?_)
      simp only [call, Owner.reserved]
      have inside := known.2.1
      omega
  | withdraws raster drain following call more =>
      exact absurd (Drain.eq_of_step_phase closed (by simp)) live
  | withdrawn raster drain call done =>
      exact absurd (Drain.eq_of_step_phase closed (by simp)) live
  | releasedAll call => exact absurd closed live
  | released left call =>
      rw [call] at known
      refine absurd closed (meeting.closing_withdraws known.1 ?_)
      simp [call, Owner.reserved]
  | retires drain following call more =>
      exact absurd (Drain.eq_of_step_phase closed (by simp)) live
  | retired drain call done =>
      exact absurd (Drain.eq_of_step_phase closed (by simp)) live
  | arrived call =>
      refine ⟨by rw [call]; rfl, ?_⟩
      simp only [met]
      split
      · rfl
      · rfl
  | sleepsAgain generation call same => exact absurd closed live
  | wentOn generation call different => exact absurd closed live
  | closed call => exact ⟨by rw [call]; rfl, rfl⟩
  | joined call all => exact absurd closed live

theorem Rendezvous.closing_step {action : Action} (meeting : Rendezvous session)
    (live : session.phase ≠ .closed) (stepped : session.step action = some next)
    (closed : next.phase = .closed) :
    session.owner.isShuttingDown = true ∧ next.owner.isShuttingDown = true := by
  cases stepChange_of_step stepped with
  | prefetch | prefetchAnswered | shutdown | shutdownAnswered | roused => exact absurd closed live
  | owner starts change => exact meeting.closing_ownerStep live change closed
  | worker raster tile found change => exact meeting.closing_workerStep live found change closed
  | consumer raster tile found change => cases change <;> exact absurd closed live

theorem Rendezvous.completes_step {action : Action} (meeting : Rendezvous session)
    (stepped : session.step action = some next)
    (completes : session.barrier.generation < next.barrier.generation) :
    session.phase ≠ .closed ∧ next.phase = .closed := by
  constructor
  · intro closed
    rw [(meeting.rests_step closed stepped).barrier] at completes
    omega
  · rcases (meeting.step stepped).generation with first | ⟨_, closed⟩
    · omega
    · exact closed

theorem Rendezvous.awaits (meeting : Rendezvous session)
    (waits : session.owner.waitsAt session.barrier = true) :
    ∃ tile ∈ session.tiles, tile.isStarted = true ∧ tile.isGone = false := by
  have known := meeting.fits
  have busy : 0 < session.tiles.countP (·.isActive) := by
    cases call : session.owner with
    | parked generation =>
        rw [call] at known
        exact known.2.2.2
    | woken generation =>
        rw [call] at known
        apply known.2.2
        simp only [call, Owner.waitsAt, beq_iff_eq] at waits
        exact waits.trans known.1
    | _ => simp [call, Owner.waitsAt] at waits
  obtain ⟨tile, member, active⟩ := List.countP_pos_iff.mp busy
  exact ⟨tile, member, TileState.isStarted_of_isActive active,
    TileState.isGone_eq_false_of_isActive active⟩

def allStarted (session : Session plan) : Prop :=
  ∀ tile ∈ session.tiles, tile.isStarted = true

theorem allStarted_of_set (before : session.allStarted)
    (tiles : next.tiles = session.tiles.set raster after) (started : after.isStarted = true) :
    next.allStarted := by
  intro tile member
  rw [tiles] at member
  rcases List.mem_or_eq_of_mem_set member with other | rfl
  · exact before tile other
  · exact started

theorem allStarted_of_tiles (before : session.allStarted) (tiles : next.tiles = session.tiles) :
    next.allStarted := by
  intro tile member
  rw [tiles] at member
  exact before tile member

theorem allStarted_of_ownerStep (before : session.allStarted)
    (change : OwnerChange session next) : next.allStarted := by
  cases change with
  | started raster tile call found => exact allStarted_of_set before rfl rfl
  | dropped | released | arrived => exact allStarted_of_tiles before (met_tiles _ _)
  | _ => exact allStarted_of_tiles before rfl

theorem allStarted_of_step {action : Action} (before : session.allStarted)
    (stepped : session.step action = some next) : next.allStarted := by
  cases stepChange_of_step stepped with
  | prefetch | prefetchAnswered | shutdown | shutdownAnswered | roused =>
      exact allStarted_of_tiles before rfl
  | owner starts change => exact allStarted_of_ownerStep before change
  | worker raster tile found change =>
      rcases change.goesOn with ⟨after, goes⟩ | ⟨leaving, rfl⟩
      · exact allStarted_of_set before goes.tiles
          (TileState.isStarted_of_isActive goes.stillActive)
      · exact allStarted_of_set before (met_tiles _ _) rfl
  | consumer raster tile found change =>
      have started := before tile (List.mem_of_getElem? found)
      cases change with
      | refused idle closed => exact before
      | began | took | counted => exact allStarted_of_set before rfl started

theorem allStarted_of_later (before : session.allStarted) (run : Later session later) :
    later.allStarted := by
  induction run with
  | refl => exact before
  | step action _ stepped ih => exact allStarted_of_step ih stepped

def StartedAll (session next : Session plan) : Prop :=
  ∃ raster starts, session.owner = .starting raster ∧
    session.step (.owner starts) = some next ∧ next.owner = .idle

def ShutDown (session next : Session plan) : Prop :=
  ∃ action, session.step action = some next ∧ next.owner = .idle ∧
    (session.owner.isShuttingDown = true ∨ action = .shutdown)

theorem Rendezvous.allStarted (meeting : Rendezvous session) (prefetched : StartedAll session next) :
    next.allStarted := by
  obtain ⟨raster, starts, call, stepped, returned⟩ := prefetched
  have known := meeting.fits
  rw [call] at known
  cases ownerChange_of_step stepped with
  | startedAll index at_index found =>
      obtain rfl := Owner.starting.inj (call.symm.trans at_index)
      rw [List.getElem?_eq_none_iff] at found
      intro tile member
      obtain ⟨position, at_position⟩ := List.mem_iff_getElem?.mp member
      have inside := (List.getElem?_eq_some_iff.mp at_position).1
      rw [known.2.2 position tile at_position, decide_eq_true_iff]
      exact Nat.lt_of_lt_of_le inside found
  | _ => simp_all

theorem Rendezvous.closed_of_ownerStep (meeting : Rendezvous session)
    (change : OwnerChange session next) (under_way : session.owner.isShuttingDown = true)
    (idle : next.owner = .idle) : next.phase = .closed := by
  have known := meeting.fits
  cases change with
  | joined call all =>
      rw [call] at known
      exact known
  | unopened call | startedAll _ call | releasedAll call =>
      simp [call, Owner.isShuttingDown] at under_way
  | dropped raster call | released left call =>
      simp [call, Owner.isShuttingDown] at under_way
  | retired drain call =>
      simp only [drained] at idle
      split at idle <;> simp at idle
  | arrived call =>
      have before := idle_of_met idle
      simp only at before
      split at before <;> simp at before
  | _ => simp [drained] at idle

theorem Rendezvous.closed_of_shutDown (meeting : Rendezvous session)
    (returned : ShutDown session next) : next.phase = .closed := by
  obtain ⟨action, stepped, idle, under_way⟩ := returned
  cases stepChange_of_step stepped with
  | prefetch | shutdown | roused => simp at idle
  | prefetchAnswered _ before => simp [before, Owner.isShuttingDown] at under_way
  | shutdownAnswered _ closed => exact closed
  | owner starts change =>
      exact meeting.closed_of_ownerStep change (by simpa using under_way) idle
  | worker raster tile found change =>
      simp only [reduceCtorEq, or_false] at under_way
      rcases change.goesOn with ⟨after, goes⟩ | ⟨leaving, rfl⟩
      · rw [← goes.owner, idle] at under_way
        exact Bool.noConfusion under_way
      · have before : (session.setTile raster { tile with stage := .gone }).owner = .idle :=
          idle_of_met idle
        change session.owner = .idle at before
        rw [before] at under_way
        exact Bool.noConfusion under_way
  | consumer raster tile found change =>
      simp only [reduceCtorEq, or_false] at under_way
      have before : session.owner = .idle := by cases change <;> exact idle
      rw [before] at under_way
      exact Bool.noConfusion under_way

theorem Rendezvous.exited_of_closed (meeting : Rendezvous session) (all : session.allStarted)
    (closed : session.phase = .closed) : session.exited = plan.manifest.tileCount := by
  rw [meeting.exited all, ← meeting.size, List.countP_eq_length]
  intro tile member
  exact (TileState.isGone_of_isStarted (all tile member)
    ((meeting.of_closed closed).2 tile member)).2

/-- A session of a manifest with a video set for each tile, as every parsed one has, closes only
within a call to shut down and after all of its workers have left, and nothing but polls under way
moves afterwards. Nobody waits at the barrier for workers that have
left, the barrier is completed at most once, and a shutdown of a session all of whose workers were
started returns once all of them are counted as exited. -/
theorem closes_once (size : plan.manifest.videoSets.length = plan.manifest.tileCount)
    (reached : Reachable plan session) :
    (∀ action next, session.step action = some next →
      session.phase ≠ .closed → next.phase = .closed →
        session.owner.isShuttingDown = true ∧ next.owner.isShuttingDown = true) ∧
    (session.phase = .closed →
      (∀ tile ∈ session.tiles, tile.isStarted = true → tile.isGone = true) ∧
      ∀ later, Later session later → session.Rests later) ∧
    (session.owner.waitsAt session.barrier = true →
      ∃ tile ∈ session.tiles, tile.isStarted = true ∧ tile.isGone = false) ∧
    (∀ action next, session.step action = some next →
      session.barrier.generation < next.barrier.generation →
        session.phase ≠ .closed ∧ next.phase = .closed ∧
        ∀ later, Later next later →
          later.phase = .closed ∧ later.barrier.generation = next.barrier.generation) ∧
    (∀ prefetched before after, StartedAll session prefetched →
      Later prefetched before → ShutDown before after →
        after.exited = plan.manifest.tileCount ∧
        ∀ later, Later after later → later.exited = plan.manifest.tileCount) := by
  have meeting := reached.rendezvous size
  refine ⟨?_, ?_, meeting.awaits, ?_, ?_⟩
  · intro action next stepped live closed
    exact meeting.closing_step live stepped closed
  · intro closed
    constructor
    · intro tile member started
      have left := (meeting.of_closed closed).2 tile member
      exact (TileState.isGone_of_isStarted started left).1
    · intro later run
      exact (meeting.rests_later closed run).2
  · intro action next stepped completes
    obtain ⟨live, closed⟩ := meeting.completes_step stepped completes
    refine ⟨live, closed, ?_⟩
    intro later run
    have rests := ((meeting.step stepped).rests_later closed run).2
    exact ⟨rests.closed, by rw [rests.barrier]⟩
  · intro prefetched before after startedAll run returned
    have all_before := allStarted_of_later (meeting.allStarted startedAll) run
    obtain ⟨_, _, _, began, _⟩ := startedAll
    have before_reached := (reached.step _ began).later run
    have before_meeting := before_reached.rendezvous size
    have closed := before_meeting.closed_of_shutDown returned
    obtain ⟨action, stepped, _, _⟩ := returned
    have after_meeting := before_meeting.step stepped
    have counted :=
      after_meeting.exited_of_closed (allStarted_of_step all_before stepped) closed
    refine ⟨counted, ?_⟩
    intro later after_run
    rw [(after_meeting.rests_later closed after_run).2.exited, counted]

def lonePlan : Plan where
  manifest := {
    title := ""
    presentationDuration := none
    minBufferTime := none
    maxSegmentDuration := none
    grid := { columns := 1, rows := 1 }
    frameExtent := { width := 64, height := 64 }
    videoSets := [{
      tile := { x := 0, y := 0 }
      extent := { width := 64, height := 64 }
      codecs := ""
      mimeType := ""
      representations := [{ id := 1, bandwidth := 1, media := "", initialization := "" }] }]
    audioSet := none }
  manifestUrl := ""
  engine := {
    State := Unit
    openSegment := fun _ _ => .error (.fault .collaborator)
    send := fun _ => (.ok [], ())
    isFlushed := fun _ => true }
  choose := fun _ _ _ => .error .collaborator
  answer := fun _ _ _ => .error .aborted
  concurrency := 1

theorem closes_once_of_one_worker :
    ∃ session prefetched before after : Session lonePlan,
      Reachable lonePlan session ∧ StartedAll session prefetched ∧ Later prefetched before ∧
      ShutDown before after ∧ after.exited = 1 := by
  obtain ⟨session, prefetched, before, after, reached, startedAll, run, returned⟩ :
      ∃ session prefetched before after : Session lonePlan,
        Reachable lonePlan session ∧ StartedAll session prefetched ∧ Later prefetched before ∧
        ShutDown before after :=
    ⟨_, _, _, _,
      (((Reachable.start rfl).step .prefetch rfl).step (.owner true) rfl).step (.owner true) rfl,
      ⟨1, true, rfl, rfl, rfl⟩,
      (((((((((Later.refl.step (.worker 0) rfl).step .shutdown rfl).step (.owner true) rfl).step
        (.owner true) rfl).step (.owner true) rfl).step (.owner true) rfl).step (.worker 0) rfl).step
        (.worker 0) rfl).step (.owner true) rfl),
      ⟨.owner true, rfl, rfl, .inl rfl⟩⟩
  obtain ⟨_, _, _, _, exited⟩ := closes_once rfl reached
  exact ⟨session, prefetched, before, after, reached, startedAll, run, returned,
    (exited prefetched before after startedAll run returned).1⟩

end Session

end TiledStream
