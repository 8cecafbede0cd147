import TiledStream.Proofs.Session.Lifecycle

/-! A run with the workers it starts: each tile gets one at most, and a session that drains gets no
more of them. -/

namespace TiledStream.Session

variable {plan : Plan} {first session next : Session plan} {started more : List Nat}
  {action : Action} {raster : Nat} {tile : TileState plan.engine}

def launched? (session : Session plan) : Action → Option Nat
  | .owner true =>
    match session.owner with
    | .starting raster => if raster < session.tiles.length then some raster else none
    | _ => none
  | _ => none

inductive Launches (first : Session plan) : List Nat → Session plan → Prop where
  | refl : Launches first [] first
  | step {started : List Nat} {session next : Session plan} (action : Action) :
      Launches first started session → session.step action = some next →
      Launches first (started ++ (session.launched? action).toList) next

theorem Launches.later (run : Launches first started session) : Later first session := by
  induction run with
  | refl => exact .refl
  | step action _ stepped ih => exact ih.step action stepped

theorem launches_of_later (later : Later first session) :
    ∃ started, Launches first started session := by
  induction later with
  | refl => exact ⟨[], .refl⟩
  | step action _ stepped ih =>
      obtain ⟨started, run⟩ := ih
      exact ⟨_, run.step action stepped⟩

theorem launched?_eq_some (launched : session.launched? action = some raster) :
    action = .owner true ∧ session.owner = .starting raster ∧
      ∃ tile, session.tiles[raster]? = some tile := by
  unfold launched? at launched
  split at launched
  · split at launched
    · rename_i position call
      split at launched
      · rename_i inside
        obtain rfl := Option.some.inj launched
        exact ⟨rfl, call, _, List.getElem?_eq_getElem inside⟩
      · simp at launched
    · simp at launched
  · simp at launched

theorem step_of_launched (launched : session.launched? action = some raster)
    (stepped : session.step action = some next) :
    ∃ tile, session.owner = .starting raster ∧ session.tiles[raster]? = some tile ∧
      next = { session.setTile raster { tile with stage := .requesting none } with
        workers := session.workers + 1
        owner := .starting (raster + 1) } := by
  obtain ⟨rfl, call, tile, found⟩ := launched?_eq_some launched
  refine ⟨tile, call, found, ?_⟩
  simp only [Session.step, ownerStep, call, startWorker, found, ↓reduceIte,
    Option.some.injEq] at stepped
  exact stepped.symm

/-- A step that starts no worker. The owner begins to start some only in a created session. -/
structure Quiet (session next : Session plan) : Prop where
  tiles : next.tiles.map (·.isStarted) = session.tiles.map (·.isStarted)
  owner : ∀ raster, next.owner = .starting raster →
    session.owner = .starting raster ∨ session.phase = .created ∧ next.phase = .prefetching

theorem starting_of_met {result : Bool × Barrier}
    (starting : (session.met result).owner = .starting raster) :
    session.owner = .starting raster := by
  unfold met at starting
  split at starting
  · dsimp only at starting
    split at starting
    · simp at starting
    · exact starting
  · exact starting

theorem WorkerChange.quiet (found : session.tiles[raster]? = some tile)
    (change : WorkerChange session raster tile next) : Quiet session next := by
  have working := TileState.isStarted_of_isActive change.active
  rcases change.goesOn with ⟨after, goes⟩ | ⟨_, rfl⟩
  · refine ⟨?_, fun raster starting => .inl (goes.owner.symm.trans starting)⟩
    rw [goes.tiles]
    apply map_set_eq _ after found
    rw [working, TileState.isStarted_of_isActive goes.stillActive]
  · refine ⟨?_, fun raster starting => .inl ?_⟩
    · rw [met_tiles]
      exact map_set_eq _ _ found working.symm
    · have before := starting_of_met starting
      exact before

theorem quiet_of_ownerStep {starts : Bool} (quiet : session.launched? (.owner starts) = none)
    (stepped : session.step (.owner starts) = some next) : Quiet session next := by
  cases starting : session.owner with
  | starting raster =>
      simp only [Session.step, ownerStep, starting, startWorker, Option.some.injEq] at stepped
      split at stepped
      · subst stepped
        exact ⟨rfl, by simp [finish]⟩
      · rename_i tile found
        cases starts with
        | true =>
            have inside := (List.getElem?_eq_some_iff.mp found).1
            simp [launched?, starting, inside] at quiet
        | false =>
            simp only [Bool.false_eq_true, ↓reduceIte] at stepped
            subst stepped
            exact ⟨rfl, by simp⟩
  | _ =>
      cases ownerChange_of_step stepped with
      | opened call created => exact ⟨rfl, fun raster _ => .inr ⟨created, rfl⟩⟩
      | startedAll _ call | started _ _ call | unstarted _ _ call =>
          rw [starting] at call
          cases call
      | dropped | released =>
          refine ⟨by rw [met_tiles], fun raster begins => ?_⟩
          have before := starting_of_met begins
          cases before
      | arrived =>
          refine ⟨by rw [met_tiles], fun raster begins => ?_⟩
          have before := starting_of_met begins
          dsimp only at before
          split at before <;> cases before
      | retired =>
          refine ⟨rfl, fun raster begins => ?_⟩
          simp only [drained] at begins
          split at begins <;> cases begins
      | _ => exact ⟨rfl, fun raster begins => by cases begins⟩

theorem quiet_of_step (quiet : session.launched? action = none)
    (stepped : session.step action = some next) : Quiet session next := by
  cases stepChange_of_step stepped with
  | owner starts => exact quiet_of_ownerStep quiet stepped
  | worker raster tile found change => exact change.quiet found
  | consumer raster tile found change =>
      cases change with
      | refused => exact ⟨rfl, fun _ => .inl⟩
      | began | took | counted => exact ⟨map_set_eq _ _ found rfl, fun _ => .inl⟩
  | _ => exact ⟨rfl, fun raster begins => by cases begins⟩

structure Launched (started : List Nat) (session : Session plan) : Prop where
  inOrder : started.Pairwise (· < ·)
  created : session.phase = .created → started = []
  starting : ∀ raster, session.owner = .starting raster →
    session.phase ≠ .created ∧ ∀ earlier ∈ started, earlier < raster
  tiles : ∀ raster tile, session.tiles[raster]? = some tile →
    (tile.isStarted = true ↔ raster ∈ started)

theorem Launched.start (created : create plan = .ok session) : Launched [] session := by
  obtain ⟨fields, _, tiles⟩ := create_eq_ok created
  refine { inOrder := .nil, created := fun _ => rfl, starting := ?_, tiles := ?_ }
  · intro raster call
    rw [fields] at call
    cases call
  · intro raster tile found
    obtain ⟨video, tileIndex, _, _, rfl⟩ := tiles raster tile found
    simp [TileState.isStarted, TileState.start]

theorem Launched.quiet (launched : Launched started session) (quiet : Quiet session next)
    (forward : session.phase.rank ≤ next.phase.rank) : Launched started next := by
  have opened (created : next.phase = .created) : session.phase = .created := by
    rw [created] at forward
    exact Phase.eq_created_of_le forward
  refine {
    inOrder := launched.inOrder
    created := fun created => launched.created (opened created)
    starting := ?_
    tiles := ?_ }
  · intro raster call
    rcases quiet.owner raster call with before | ⟨created, prefetching⟩
    · obtain ⟨left, below⟩ := launched.starting raster before
      exact ⟨fun created => left (opened created), below⟩
    · rw [launched.created created, prefetching]
      exact ⟨by simp, by simp⟩
  · intro raster tile found
    have same := congrArg (·[raster]?) quiet.tiles
    simp only [List.getElem?_map, found, Option.map_some] at same
    obtain ⟨before, at_raster, agrees⟩ := Option.map_eq_some_iff.mp same.symm
    rw [← agrees]
    exact launched.tiles raster before at_raster

theorem Launched.starts (launched : Launched started session)
    (call : session.owner = .starting raster) :
    Launched (started ++ [raster])
      { session.setTile raster { tile with stage := .requesting none } with
        workers := session.workers + 1
        owner := .starting (raster + 1) } := by
  obtain ⟨left, below⟩ := launched.starting raster call
  refine {
    inOrder := ?_
    created := fun before => absurd before left
    starting := ?_
    tiles := ?_ }
  · rw [List.pairwise_append]
    refine ⟨launched.inOrder, List.pairwise_singleton _ _, ?_⟩
    intro earlier listed last here
    rw [List.mem_singleton.mp here]
    exact below earlier listed
  · intro following turned
    obtain rfl := Owner.starting.inj turned
    refine ⟨left, ?_⟩
    intro earlier listed
    rcases List.mem_append.mp listed with before | here
    · exact Nat.lt_succ_of_lt (below earlier before)
    · rw [List.mem_singleton.mp here]
      exact Nat.lt_succ_self _
  · intro position other at_position
    simp only [setTile] at at_position
    rcases found_of_set at_position with ⟨rfl, rfl⟩ | ⟨elsewhere, before⟩
    · simp [TileState.isStarted]
    · rw [launched.tiles position other before]
      simp [Ne.symm elsewhere]

theorem Launched.step (launched : Launched started session) (orderly : Orderly session)
    (stepped : session.step action = some next) :
    Launched (started ++ (session.launched? action).toList) next := by
  cases launch : session.launched? action with
  | none =>
      rw [Option.toList_none, List.append_nil]
      exact launched.quiet (quiet_of_step launch stepped) (orderly.step stepped).1
  | some raster =>
      obtain ⟨_, call, _, rfl⟩ := step_of_launched launch stepped
      exact launched.starts call

theorem Launches.launched (created : create plan = .ok first)
    (run : Launches first started session) : Launched started session := by
  induction run with
  | refl => exact .start created
  | step action before stepped ih =>
      exact ih.step (before.later.rank_le (.start created)).2 stepped

theorem Launches.nothing (orderly : Orderly session)
    (draining : Phase.draining.rank ≤ session.phase.rank)
    (idle : ∀ raster, session.owner ≠ .starting raster)
    (run : Launches session more next) : more = [] ∧ ∀ raster, next.owner ≠ .starting raster := by
  induction run with
  | refl => exact ⟨rfl, idle⟩
  | @step more between next action before stepped ih =>
      obtain ⟨rfl, idle⟩ := ih
      have forward := (before.later.rank_le orderly).1
      cases launch : between.launched? action with
      | some raster => exact absurd (launched?_eq_some launch).2.1 (idle raster)
      | none =>
          refine ⟨rfl, ?_⟩
          intro raster starting
          rcases (quiet_of_step launch stepped).owner raster starting with still | ⟨created, _⟩
          · exact idle raster still
          · rw [created] at forward
            have reached := Nat.le_trans draining forward
            simp [Phase.rank] at reached

theorem callPrefetch_of_draining (draining : Phase.draining.rank ≤ session.phase.rank) :
    session.callPrefetch = session.finish (.error .sessionClosed) := by
  unfold callPrefetch
  cases phase : session.phase with
  | draining | closed => rfl
  | _ => simp [phase, Phase.rank] at draining

theorem queued_before_streaming (orderly : Orderly session)
    (stepped : session.step action = some next) (streams : next.phase = .streaming) :
    session.HasQueuedFrame := by
  by_cases before : session.phase = .streaming
  · exact orderly.streaming before
  · cases stepChange_of_step stepped with
    | worker raster tile found change =>
        have listed := List.mem_of_getElem? found
        have knows := orderly.workers tile listed
        cases change with
        | promoted work status =>
            rw [status] at knows
            exact ⟨tile, listed, knows⟩
        | drains | drainsLast =>
            exact absurd (Drain.eq_of_step_phase streams (by simp)) before
        | left => exact absurd (streaming_of_met streams) before
        | _ => exact absurd streams before
    | owner starts change =>
        cases change with
        | opened | closed => cases streams
        | withdraws | withdrawn | retires | retired =>
            exact absurd (Drain.eq_of_step_phase streams (by simp)) before
        | dropped | released | arrived => exact absurd (streaming_of_met streams) before
        | _ => exact absurd streams before
    | consumer raster tile found change =>
        rw [(orderly.consumerStep found change).1] at streams
        exact absurd streams before
    | _ => exact absurd streams before

/-- What `available` answers when it reads the flag in one state and the phase in a later one. -/
def sawAvailable (flagged phased : Session plan) : Bool :=
  ({ phased with terminated := flagged.terminated } : Session plan).available

theorem sawAvailable_eq_false {flagged phased : Session plan} :
    sawAvailable flagged phased = false ↔
      flagged.terminated = true ∨ Phase.draining.rank ≤ phased.phase.rank := by
  rw [sawAvailable, available, ← Phase.isLive_eq_false]
  cases flagged.terminated <;> simp

/-- A session never goes back to an earlier phase. A frame was queued before it is called
streaming, it drains before its streams are cancelled, and it never streams again afterwards. Each
tile gets one worker at most, a call to prefetch a session that drains or is closed is refused, and
such a session starts no more workers once nobody is about to. A session found unavailable is never
found available by a later call. -/
theorem lifecycle_moves_forward (created : create plan = .ok first)
    (run : Launches first started session) :
    (∀ action next, session.step action = some next →
      session.phase.rank ≤ next.phase.rank ∧
      (next.phase = .streaming → session.HasQueuedFrame)) ∧
    (session.cancelled = true → Phase.draining.rank ≤ session.phase.rank) ∧
    (started.Nodup ∧ ∀ raster tile, session.tiles[raster]? = some tile →
      (tile.isStarted = true ↔ raster ∈ started)) ∧
    (Phase.draining.rank ≤ session.phase.rank →
      (session.owner = .idle →
        session.step .prefetch = some (session.finish (.error .sessionClosed))) ∧
      ((∀ raster, session.owner ≠ .starting raster) →
        ∀ more later, Launches session more later → more = [])) ∧
    ∀ later, Later session later →
      session.phase.rank ≤ later.phase.rank ∧
      (session.cancelled = true → later.cancelled = true ∧ later.phase ≠ .streaming) ∧
      (sawAvailable session later = false →
        ∀ again last, Later later again → Later again last →
          sawAvailable again last = false) := by
  have orderly := (run.later.rank_le (.start created)).2
  have launched := run.launched created
  refine ⟨?_, ?_, ⟨?_, launched.tiles⟩, ?_, ?_⟩
  · intro action next stepped
    exact ⟨(orderly.step stepped).1, queued_before_streaming orderly stepped⟩
  · intro cancelled
    exact Phase.isLive_eq_false.mp (orderly.cancelled cancelled)
  · exact launched.inOrder.imp fun below => Nat.ne_of_lt below
  · intro draining
    constructor
    · intro idle
      rw [step, if_pos idle, callPrefetch_of_draining draining]
    · intro settled more later onward
      exact (onward.nothing orderly draining settled).1
  · intro later onward
    obtain ⟨forward, orderly_later⟩ := onward.rank_le orderly
    refine ⟨forward, ?_, ?_⟩
    · intro cancelled
      have still := onward.signals.cancelled cancelled
      refine ⟨still, ?_⟩
      intro streams
      have draining := orderly_later.cancelled still
      rw [streams] at draining
      cases draining
    · intro unavailable again last onward_again onward_last
      rw [sawAvailable_eq_false] at unavailable ⊢
      rcases unavailable with ended | draining
      · left
        exact (onward.trans onward_again).signals.terminated ended
      · right
        exact Nat.le_trans draining ((onward_again.trans onward_last).rank_le orderly_later).1

theorem Later.run {actions : List Action} (ran : session.run actions = some next) :
    Later session next :=
  runWhile_keeps .refl ran fun _ _ action later stepped _ => later.step action stepped

theorem solo_lifecycle_moves_forward :
    ∃ (first streaming session : Session soloPlan) (started : List Nat),
      create soloPlan = .ok first ∧ Later first streaming ∧ streaming.phase = .streaming ∧
      Later streaming session ∧ Launches first started session ∧
      session.phase = .closed ∧ session.cancelled = true ∧ session.owner = .idle ∧
      started.Nodup ∧ 0 ∈ started ∧
      session.step .prefetch = some (session.finish (.error .sessionClosed)) ∧
      ∀ later, Later session later →
        Phase.closed.rank ≤ later.phase.rank ∧ later.phase ≠ .streaming := by
  obtain ⟨first, streaming, session, created, streams, delivers, shuts, closed, cancelled, idle,
      tile, found, begun⟩ :
      ∃ first streaming session : Session soloPlan, create soloPlan = .ok first ∧
        Later first streaming ∧ streaming.phase = .streaming ∧ Later streaming session ∧
        session.phase = .closed ∧ session.cancelled = true ∧ session.owner = .idle ∧
        ∃ tile, session.tiles[0]? = some tile ∧ tile.isStarted = true :=
    ⟨_, _, _, rfl,
      .run (show run ([.prefetch, .owner true, .owner true, .owner true] ++
        List.replicate 13 (.worker 0)) _ = some _ from rfl), rfl,
      .run (show run ([.shutdown, .owner true, .owner true, .owner true, .owner true] ++
        List.replicate 5 (.worker 0) ++ [.owner true, .owner true]) _ = some _ from rfl),
      rfl, rfl, rfl, _, rfl, rfl⟩
  obtain ⟨started, run⟩ := launches_of_later (streams.trans shuts)
  obtain ⟨_, _, ⟨once, tiles⟩, refused, onward⟩ := lifecycle_moves_forward created run
  refine ⟨first, streaming, session, started, created, streams, delivers, shuts, run, closed,
    cancelled, idle, once, (tiles 0 tile found).mp begun, ?_, ?_⟩
  · exact (refused (by rw [closed]; decide)).1 idle
  · intro later after
    obtain ⟨forward, silent, _⟩ := onward later after
    rw [closed] at forward
    exact ⟨forward, (silent cancelled).2⟩

end TiledStream.Session
