import Mathlib.Logic.Function.Iterate
import TiledStream.Proofs.Session.Accounting
import TiledStream.Proofs.Session.RunAhead

/-! Sessions with deadlines stand in no other states than sessions without. A worker may give up a
write although its consumer has made room since the deadline. Such a consumer might have come later:
its steps concern no other thread as long as the worker has not looked. -/

namespace TiledStream

namespace TileState

variable {engine : Engine}

def polled (tile : TileState engine) : TileState engine :=
  match tile.consumer with
  | .idle => { tile with consumer := .taking }
  | .taking =>
    { tile with
      queue := tile.queue.take.2
      consumer := if (tile.queue.take.1.bind (·.frame?)).isSome then .counting else .idle }
  | .counting => { tile with consumer := .idle }

theorem polled_setStage (tile : TileState engine) (stage : Stage engine) (count : Nat) :
    polled^[count] { tile with stage } = { polled^[count] tile with stage } := by
  induction count generalizing tile with
  | zero => rfl
  | succ count ih =>
      have once : polled { tile with stage } = { tile.polled with stage } := by
        unfold polled
        cases tile.consumer <;> rfl
      rw [Function.iterate_succ_apply, Function.iterate_succ_apply, once, ih]

@[simp] theorem stage_polled (tile : TileState engine) (count : Nat) :
    (polled^[count] tile).stage = tile.stage := by
  have same := congrArg TileState.stage (polled_setStage tile tile.stage count)
  exact same

end TileState

namespace Session

variable {plan : Plan} {session next : Session plan} {action : Action} {late : Nat → Nat}
  {consumed : Series Nat} {raster : Nat} {tile : TileState plan.engine}

/-- A session whose consumers are some steps ahead, whatever they have counted. -/
def ahead (late : Nat → Nat) (consumed : Series Nat) (session : Session plan) : Session plan :=
  { session with
    tiles := session.tiles.mapIdx fun raster tile => TileState.polled^[late raster] tile
    metrics := { session.metrics with consumed } }

@[simp] theorem ahead_phase : (session.ahead late consumed).phase = session.phase := rfl

@[simp] theorem ahead_cancelled :
    (session.ahead late consumed).cancelled = session.cancelled := rfl

@[simp] theorem ahead_barrier : (session.ahead late consumed).barrier = session.barrier := rfl

@[simp] theorem ahead_owner : (session.ahead late consumed).owner = session.owner := rfl

theorem ahead_tile (late : Nat → Nat) (consumed : Series Nat) (raster : Nat) :
    (session.ahead late consumed).tiles[raster]? =
      session.tiles[raster]?.map TileState.polled^[late raster] :=
  List.getElem?_mapIdx

theorem ahead_level (none : late raster = 0) :
    (session.ahead late consumed).tiles[raster]? = session.tiles[raster]? := by
  rw [ahead_tile, none]
  exact Option.map_id'

theorem ahead_found (late : Nat → Nat) (consumed : Series Nat)
    (found : session.tiles[raster]? = some tile) :
    (session.ahead late consumed).tiles[raster]? = some (TileState.polled^[late raster] tile) := by
  rw [ahead_tile, found]
  rfl

theorem ahead_setTile (tile : TileState plan.engine) (none : late raster = 0) :
    (session.setTile raster tile).ahead late consumed =
      (session.ahead late consumed).setTile raster tile := by
  simp [ahead, setTile, List.mapIdx_set, none]

theorem ahead_met (result : Bool × Barrier) :
    (session.met result).ahead late consumed = (session.ahead late consumed).met result := by
  unfold met
  split <;> rfl

theorem ahead_queueEvent (event : TileEvent) (written abandoned : Stage plan.engine)
    (none : late raster = 0) :
    (session.ahead late consumed).queueEvent raster tile event written abandoned =
      (session.queueEvent raster tile event written abandoned).map (·.ahead late consumed) := by
  unfold queueEvent
  rw [ahead_cancelled]
  cases tile.queue.attempt event session.cancelled <;>
    simp only [← ahead_setTile _ none, Option.map_some, Option.map_none]

theorem workerStep_ahead (none : late raster = 0) :
    (session.ahead late consumed).workerStep raster =
      (session.workerStep raster).map (·.ahead late consumed) := by
  unfold workerStep
  rw [ahead_level none]
  cases session.tiles[raster]? with
  | none => rfl
  | some tile =>
      dsimp only
      cases status : tile.stage with
      | waiting request =>
          dsimp only
          rw [ahead_cancelled]
          cases request.await (answerAt plan raster tile.streamer) session.cancelled <;>
            simp only [← ahead_setTile _ none] <;> rfl
      | opening following buffers =>
          dsimp only
          cases FrameSource.ofSegment plan.engine buffers.initial buffers.media plan.concurrency <;>
            simp only [← ahead_setTile _ none] <;> rfl
      | writing work frame | marking event fatal => exact ahead_queueEvent _ _ _ none
      | leaving =>
          simp only [← ahead_setTile _ none, ← ahead_met]
          rfl
      | _ =>
          simp only [← ahead_setTile _ none]
          rfl

theorem startWorker_ahead (starts : Bool) (none : late raster = 0) :
    (session.ahead late consumed).startWorker raster starts =
      (session.startWorker raster starts).ahead late consumed := by
  unfold startWorker
  rw [ahead_level none]
  cases session.tiles[raster]? with
  | none => rfl
  | some tile =>
      cases starts with
      | false => rfl
      | true =>
          simp only [← ahead_setTile _ none, if_true]
          rfl

theorem allGone_ahead :
    ((session.ahead late consumed).tiles.all fun tile => !tile.isStarted || tile.isGone) =
      session.tiles.all fun tile => !tile.isStarted || tile.isGone := by
  have kept (tile : TileState plan.engine) (count : Nat) :
      (!(TileState.polled^[count] tile).isStarted || (TileState.polled^[count] tile).isGone) =
        (!tile.isStarted || tile.isGone) := by
    simp only [TileState.isStarted, TileState.isGone, TileState.stage_polled]
  rw [Bool.eq_iff_iff, List.all_eq_true, List.all_eq_true]
  constructor
  · intro all tile member
    obtain ⟨raster, inside, rfl⟩ := List.getElem_of_mem member
    have ahead := all _ (List.mem_mapIdx.mpr ⟨raster, inside, rfl⟩)
    rwa [kept] at ahead
  · intro all _ member
    obtain ⟨raster, inside, rfl⟩ := List.mem_mapIdx.mp member
    rw [kept]
    exact all _ (List.getElem_mem inside)

theorem ownerStep_ahead (starts : Bool)
    (spared : ∀ raster, session.owner = .starting raster → late raster = 0) :
    (session.ahead late consumed).ownerStep starts =
      (session.ownerStep starts).map (·.ahead late consumed) := by
  unfold ownerStep
  rw [ahead_owner]
  cases call : session.owner with
  | starting raster => exact congrArg some (startWorker_ahead starts (spared raster call))
  | swapping =>
      dsimp only
      rw [ahead_phase]
      split <;> rfl
  | releasing left =>
      cases left with
      | zero => rfl
      | succ left =>
          simp only [Option.map_some, ahead_met]
          rfl
  | dropping | arriving =>
      simp only [Option.map_some, ahead_met]
      rfl
  | woken generation =>
      dsimp only
      rw [ahead_barrier]
      split <;> rfl
  | joining =>
      dsimp only
      rw [allGone_ahead]
      split <;> rfl
  | _ => rfl

theorem consumerStep_ahead (none : late raster = 0) :
    ∃ counted, (session.ahead late consumed).consumerStep raster =
      (session.consumerStep raster).map (·.ahead late counted) := by
  unfold consumerStep
  rw [ahead_level none]
  cases session.tiles[raster]? with
  | none => exact ⟨consumed, rfl⟩
  | some tile =>
      dsimp only
      cases status : tile.consumer with
      | idle =>
          refine ⟨consumed, ?_⟩
          simp only [← ahead_setTile _ none]
          rw [ahead_phase]
          split <;> rfl
      | taking =>
          refine ⟨consumed, ?_⟩
          simp only [← ahead_setTile _ none]
          rfl
      | counting =>
          refine ⟨consumed.change tile.streamer.tileIndex 0 (· + 1), ?_⟩
          simp only [← ahead_setTile _ none]
          rfl

def Spares (late : Nat → Nat) (session : Session plan) (action : Action) : Prop :=
  ∀ raster, late raster ≠ 0 →
    action ≠ .worker raster ∧ action ≠ .consumer raster ∧ session.owner ≠ .starting raster

theorem step_ahead (consumed : Series Nat) (spares : session.Spares late action) :
    ∃ counted, (session.ahead late consumed).step action =
      (session.step action).map (·.ahead late counted) := by
  cases action with
  | prefetch =>
      refine ⟨consumed, ?_⟩
      rw [step, step, ahead_owner]
      split
      · cases session with
        | mk phase => cases phase <;> rfl
      · rfl
  | shutdown =>
      refine ⟨consumed, ?_⟩
      rw [step, step, ahead_owner]
      split
      · unfold callShutdown
        rw [ahead_phase]
        split <;> rfl
      · rfl
  | owner starts =>
      refine ⟨consumed, ownerStep_ahead starts fun raster call => ?_⟩
      by_contra later
      exact (spares raster later).2.2 call
  | worker raster =>
      refine ⟨consumed, workerStep_ahead ?_⟩
      by_contra later
      exact (spares raster later).1 rfl
  | consumer raster =>
      apply consumerStep_ahead
      by_contra later
      exact (spares raster later).2.1 rfl
  | rouse =>
      refine ⟨consumed, ?_⟩
      rw [step, step, ahead_owner]
      cases session.owner <;> rfl

theorem eq_ahead
    (rest : next = { session with
      tiles := next.tiles
      metrics := { session.metrics with consumed } })
    (tiles : ∀ raster, next.tiles[raster]? =
      session.tiles[raster]?.map TileState.polled^[late raster]) :
    next = session.ahead late consumed := by
  have same : next.tiles = (session.ahead late consumed).tiles := by
    refine List.ext_getElem? fun raster => ?_
    rw [tiles, ahead_tile]
  rw [same] at rest
  exact rest

theorem ahead_zero (consumed : Series Nat) (session : Session plan) :
    session.ahead (fun _ => 0) consumed =
      { session with metrics := { session.metrics with consumed } } :=
  (eq_ahead rfl fun _ => Option.map_id'.symm).symm

theorem ahead_ahead (first more : Nat → Nat) (counted consumed : Series Nat)
    (session : Session plan) : (session.ahead first counted).ahead more consumed =
      session.ahead (fun raster => more raster + first raster) consumed := by
  refine eq_ahead rfl fun raster => ?_
  rw [ahead_tile, ahead_tile, Option.map_map, Function.iterate_add]

theorem ahead_update (late : Nat → Nat) (consumed counted : Series Nat)
    (found : session.tiles[raster]? = some tile) :
    { (session.ahead late consumed).setTile raster (TileState.polled^[late raster] tile).polled with
        metrics := { session.metrics with consumed := counted } } =
      session.ahead (Function.update late raster (late raster + 1)) counted := by
  refine eq_ahead rfl fun position => ?_
  change ((session.ahead late consumed).tiles.set raster _)[position]? = _
  by_cases here : raster = position
  · subst here
    rw [getElem?_set_of_found (ahead_found late consumed found), if_pos rfl, found,
      Function.update_self, Option.map_some, Function.iterate_succ_apply']
  · rw [List.getElem?_set_ne here, Function.update_of_ne (Ne.symm here), ahead_tile]

theorem ahead_setStage (late : Nat → Nat) (consumed : Series Nat) (stage : Stage plan.engine)
    (found : session.tiles[raster]? = some tile) :
    (session.ahead late consumed).setTile raster { TileState.polled^[late raster] tile with stage } =
      (session.setTile raster { tile with stage }).ahead late consumed := by
  refine eq_ahead rfl fun position => ?_
  change ((session.ahead late consumed).tiles.set raster _)[position]? =
    ((session.tiles.set raster _)[position]?).map _
  by_cases here : raster = position
  · subst here
    rw [getElem?_set_of_found (ahead_found late consumed found), getElem?_set_of_found found,
      if_pos rfl, if_pos rfl]
    exact congrArg some (TileState.polled_setStage tile stage _).symm
  · rw [List.getElem?_set_ne here, List.getElem?_set_ne here, ahead_tile]

theorem consumerStep_late (late : Nat → Nat) (consumed : Series Nat)
    (found : session.tiles[raster]? = some tile) (live : session.phase ≠ .closed) :
    ∃ counted, (session.ahead late consumed).consumerStep raster =
      some (session.ahead (Function.update late raster (late raster + 1)) counted) := by
  unfold consumerStep
  rw [ahead_found late consumed found]
  simp only [← ahead_update late consumed _ found, TileState.polled]
  cases (TileState.polled^[late raster] tile).consumer with
  | idle => exact ⟨consumed, if_neg live⟩
  | taking => exact ⟨consumed, rfl⟩
  | counting => exact ⟨_, rfl⟩

def single (raster count : Nat) : Nat → Nat := Function.update (fun _ => 0) raster count

theorem ahead_single (raster : Nat) (counted consumed : Series Nat) :
    (session.ahead (single raster (late raster)) counted).ahead (Function.update late raster 0)
      consumed = session.ahead late consumed := by
  rw [ahead_ahead]
  congr 1
  funext position
  by_cases here : position = raster
  · subst here
    simp [single]
  · simp [single, here]

theorem Reachable.polled (reached : Reachable plan session)
    (found : session.tiles[raster]? = some tile) (live : session.phase ≠ .closed) (count : Nat) :
    ∃ counted, Reachable plan (session.ahead (single raster count) counted) := by
  induction count with
  | zero =>
      refine ⟨session.metrics.consumed, ?_⟩
      rw [single, Function.update_eq_self, ahead_zero]
      exact reached
  | succ count ih =>
      obtain ⟨counted, between⟩ := ih
      obtain ⟨later, stepped⟩ := consumerStep_late (single raster count) counted found live
      rw [single, Function.update_self, Function.update_idem] at stepped
      exact ⟨later, between.step (.consumer raster) stepped⟩

/-- What consumers have done ahead they may do now. -/
theorem Reachable.caughtUp {pending : List Nat} (reached : Reachable plan session)
    (within : ∀ raster, late raster ≠ 0 → raster ∈ pending)
    (known : ∀ raster ∈ pending,
      session.phase ≠ .closed ∧ ∃ tile, session.tiles[raster]? = some tile) :
    ∃ counted, Reachable plan (session.ahead late counted) := by
  induction pending generalizing session late with
  | nil =>
      obtain rfl : late = fun _ => 0 := funext fun raster => by_contra fun ahead =>
        List.not_mem_nil (within raster ahead)
      exact ⟨session.metrics.consumed, by rw [ahead_zero]; exact reached⟩
  | cons raster pending ih =>
      obtain ⟨live, tile, found⟩ := known raster (.head _)
      obtain ⟨counted, between⟩ := reached.polled found live (late raster)
      have caught := @ih _ (Function.update late raster 0) between ?_ ?_
      · obtain ⟨later, caught⟩ := caught
        rw [ahead_single] at caught
        exact ⟨later, caught⟩
      · intro position ahead
        by_cases here : position = raster
        · rw [here, Function.update_self] at ahead
          exact absurd rfl ahead
        · rw [Function.update_of_ne here] at ahead
          exact (List.mem_cons.mp (within position ahead)).resolve_left here
      · intro position member
        obtain ⟨_, other, at_position⟩ := known position (.tail _ member)
        exact ⟨live, _, ahead_found _ _ at_position⟩

end Session

namespace Timed

open Session (Rendezvous single ahead_found ahead_level ahead_single ahead_tile)

variable {plan : Plan} {timed next : Timed plan} {action : Action} {session : Session plan}
  {late : Nat → Nat} {raster : Nat} {tile : TileState plan.engine}

/-- A session that some consumers have not polled as often. It stands where all workers that are to
look still find their queues full. -/
structure Lags (timed : Timed plan) (session : Session plan) (late : Nat → Nat) : Prop where
  reached : Session.Reachable plan session
  rest : ∃ consumed, timed.session = session.ahead late consumed
  within : ∀ raster, late raster ≠ 0 → raster ∈ timed.refused
  blocked : ∀ raster ∈ timed.refused, isBlocked session raster = true

theorem isBlocked_iff : isBlocked session raster = true ↔
    ∃ tile stage, session.tiles[raster]? = some tile ∧ stageGivenUp? tile.stage = some stage ∧
      tile.queue.isFull = true := by
  unfold isBlocked
  cases session.tiles[raster]? with
  | none => simp
  | some tile => simp [Option.isSome_iff_exists]

theorem isBlocked_congr {other : Session plan}
    (same : session.tiles[raster]? = other.tiles[raster]?) :
    isBlocked session raster = isBlocked other raster := by
  unfold isBlocked
  rw [same]

theorem live_of_isBlocked (meeting : Rendezvous session)
    (blocked : isBlocked session raster = true) :
    session.phase ≠ .closed ∧ ∃ tile, session.tiles[raster]? = some tile := by
  obtain ⟨tile, stage, found, given, _⟩ := isBlocked_iff.mp blocked
  exact ⟨(meeting.of_active found (isActive_of_stageGivenUp given).1).2.1, tile, found⟩

theorem ne_starting_of_isBlocked (meeting : Rendezvous session)
    (blocked : isBlocked session raster = true) : session.owner ≠ .starting raster := by
  intro call
  obtain ⟨tile, stage, found, given, _⟩ := isBlocked_iff.mp blocked
  rw [meeting.unstarted call found] at given
  cases given

theorem isBlocked_of_step {action : Session.Action} {after : Session plan}
    (meeting : Rendezvous session) (stepped : session.step action = some after)
    (unworked : action ≠ .worker raster) (unpolled : action ≠ .consumer raster)
    (blocked : isBlocked session raster = true) : isBlocked after raster = true := by
  obtain ⟨_, tile, found⟩ := live_of_isBlocked meeting blocked
  obtain ⟨other, at_raster, change⟩ := Session.tileChange_of_step stepped found
  cases change with
  | kept => rwa [isBlocked_congr (at_raster.trans found.symm)]
  | worked _ same => exact absurd same unworked
  | started _ _ call => exact absurd call (ne_starting_of_isBlocked meeting blocked)
  | polled _ _ same => exact absurd same unpolled

theorem Lags.polled {after : Session plan} (lags : Lags timed session late)
    (meeting : Rendezvous session) (member : raster ∈ timed.refused)
    (moved : timed.session.step (.consumer raster) = some after) :
    Lags { timed with session := after } session
      (Function.update late raster (late raster + 1)) := by
  obtain ⟨consumed, rest⟩ := lags.rest
  rw [rest] at moved
  obtain ⟨live, tile, found⟩ := live_of_isBlocked meeting (lags.blocked raster member)
  obtain ⟨counted, stepped⟩ := Session.consumerStep_late late consumed found live
  obtain rfl := Option.some.inj (stepped.symm.trans moved)
  refine ⟨lags.reached, ⟨counted, rfl⟩, ?_, lags.blocked⟩
  intro position ahead
  by_cases here : position = raster
  · rw [here]
    exact member
  · rw [Function.update_of_ne here] at ahead
    exact lags.within position ahead

theorem Lags.acted {action : Session.Action} {after : Session plan} (lags : Lags timed session late)
    (meeting : Rendezvous session) (free : timed.holdsBack action = false)
    (moved : timed.session.step action = some after) :
    ∃ session late, Lags { timed with session := after } session late := by
  by_cases polls : ∃ raster ∈ timed.refused, action = .consumer raster
  · obtain ⟨raster, member, rfl⟩ := polls
    exact ⟨session, _, lags.polled meeting member moved⟩
  · have unpolled : ∀ raster ∈ timed.refused, action ≠ .consumer raster :=
      fun raster member same => polls ⟨raster, member, same⟩
    have unworked : ∀ raster ∈ timed.refused, action ≠ .worker raster := by
      rintro raster member rfl
      rw [holdsBack, List.contains_eq_mem, decide_eq_true member] at free
      exact Bool.noConfusion free
    have spares : session.Spares late action := fun raster ahead =>
      have member := lags.within raster ahead
      ⟨unworked raster member, unpolled raster member,
        ne_starting_of_isBlocked meeting (lags.blocked raster member)⟩
    obtain ⟨consumed, rest⟩ := lags.rest
    rw [rest] at moved
    obtain ⟨counted, same⟩ := Session.step_ahead consumed spares
    obtain ⟨before, stepped, rfl⟩ := Option.map_eq_some_iff.mp (same.symm.trans moved)
    exact ⟨before, late, lags.reached.step action stepped, ⟨counted, rfl⟩, lags.within,
      fun raster member => isBlocked_of_step meeting stepped (unworked raster member)
        (unpolled raster member) (lags.blocked raster member)⟩

theorem Lags.expired (lags : Lags timed session late)
    (blocked : isBlocked timed.session raster = true) (unrefused : raster ∉ timed.refused) :
    Lags { timed with refused := raster :: timed.refused } session late := by
  obtain ⟨consumed, rest⟩ := lags.rest
  refine ⟨lags.reached, lags.rest, fun position ahead => .tail _ (lags.within position ahead), ?_⟩
  intro position member
  rcases List.mem_cons.mp member with rfl | before
  · have level : late position = 0 := by_contra fun ahead =>
      unrefused (lags.within position ahead)
    have same : timed.session.tiles[position]? = session.tiles[position]? := by
      rw [rest, ahead_level level]
    rwa [← isBlocked_congr same]
  · exact lags.blocked position before

theorem Lags.looked {consumed : Series Nat} {other : Session plan} (lags : Lags timed session late)
    (reached : Session.Reachable plan other) (live : other.phase ≠ .closed)
    (found : other.tiles[raster]? = some tile)
    (spared : ∀ position, position ≠ raster →
      other.tiles[position]? = session.tiles[position]?) :
    ∃ settled later, Lags {
      session := other.ahead late consumed
      refused := timed.refused.filter (· != raster) } settled later := by
  obtain ⟨counted, reached⟩ := reached.polled found live (late raster)
  refine ⟨_, Function.update late raster 0, reached, ⟨consumed, (ahead_single ..).symm⟩, ?_, ?_⟩
  · intro position ahead
    by_cases here : position = raster
    · rw [here, Function.update_self] at ahead
      exact absurd rfl ahead
    · rw [Function.update_of_ne here] at ahead
      exact List.mem_filter.mpr ⟨lags.within position ahead, bne_iff_ne.mpr here⟩
  · intro position member
    obtain ⟨before, elsewhere⟩ := List.mem_filter.mp member
    have same : (other.ahead (single raster (late raster)) counted).tiles[position]? =
        session.tiles[position]? := by
      rw [ahead_tile, spared position (bne_iff_ne.mp elsewhere), single,
        Function.update_of_ne (bne_iff_ne.mp elsewhere)]
      exact Option.map_id'
    rw [isBlocked_congr same]
    exact lags.blocked position before

theorem mem_of_look (stepped : timed.step (.look raster) = some next) :
    raster ∈ timed.refused := by
  simp only [step] at stepped
  split at stepped
  · rename_i refused
    simpa using refused
  · simp at stepped

theorem givesUp_of_full {stage : Stage plan.engine} (found : session.tiles[raster]? = some tile)
    (given : stageGivenUp? tile.stage = some stage) (full : tile.queue.isFull = true)
    (cancelled : session.cancelled = true) :
    session.step (.worker raster) = some (session.setTile raster { tile with stage }) := by
  rcases stageGivenUp?_eq_some given with ⟨_, _, status, rfl⟩ | ⟨_, _, status, rfl⟩
  all_goals
    simp [Session.step, Session.workerStep, found, status, Session.queueEvent,
      BoundedQueue.attempt, BoundedQueue.write?, full, cancelled]

theorem Reachable.lags (size : plan.manifest.videoSets.length = plan.manifest.tileCount)
    (reached : Reachable plan timed) : ∃ session late, Lags timed session late := by
  induction reached with
  | @start session created =>
      refine ⟨session, fun _ => 0, .start created, ⟨session.metrics.consumed, ?_⟩,
        fun _ ahead => absurd rfl ahead, nofun⟩
      rw [Session.ahead_zero]
  | @step timed next action _ stepped ih =>
      obtain ⟨session, late, lags⟩ := ih
      have meeting := lags.reached.rendezvous size
      obtain ⟨consumed, rest⟩ := lags.rest
      cases change_of_step stepped with
      | acted action after free moved => exact lags.acted meeting free moved
      | expired raster blocked unrefused => exact ⟨session, late, lags.expired blocked unrefused⟩
      | again raster =>
          have blocked := lags.blocked raster (mem_of_look stepped)
          obtain ⟨live, tile, found⟩ := live_of_isBlocked meeting blocked
          rw [rest]
          exact lags.looked lags.reached live found fun _ _ => rfl
      | gaveUp raster tile stage cancelled found given =>
          have blocked := lags.blocked raster (mem_of_look stepped)
          obtain ⟨live, _⟩ := live_of_isBlocked meeting blocked
          obtain ⟨before, other, at_raster, gives, full⟩ := isBlocked_iff.mp blocked
          rw [rest, ahead_found late consumed at_raster] at found
          obtain rfl := Option.some.inj found
          rw [TileState.stage_polled, gives] at given
          obtain rfl := Option.some.inj given
          rw [rest] at cancelled
          have gone := lags.reached.step (.worker raster)
            (givesUp_of_full at_raster gives full cancelled)
          rw [rest, Session.ahead_setStage late consumed other at_raster]
          exact lags.looked gone live (getElem?_set_of_found at_raster)
            fun position elsewhere => List.getElem?_set_ne (Ne.symm elsewhere)

/-- With deadlines a session stands in no other states than without, but for the order in which
consumers counted what they took for the first time. -/
theorem Reachable.exists_session (placed : plan.manifest.Placed) (reached : Reachable plan timed) :
    ∃ session, Session.Reachable plan session ∧
      (∃ consumed, timed.session =
        { session with metrics := { session.metrics with consumed } }) ∧
      ∀ raster tile, timed.session.tiles[raster]? = some tile →
        session.metrics.counts (raster + 1) = timed.session.metrics.counts (raster + 1) := by
  obtain ⟨earlier, late, lags⟩ := reached.lags placed.size
  obtain ⟨consumed, rest⟩ := lags.rest
  have meeting := lags.reached.rendezvous placed.size
  obtain ⟨counted, caught⟩ := lags.reached.caughtUp lags.within fun raster member =>
    live_of_isBlocked meeting (lags.blocked raster member)
  refine ⟨_, caught, ⟨consumed, rest⟩, ?_⟩
  intro raster tile found
  -- The queue and the history of a tile tell what its two counters show.
  have now := reached.ledger placed raster tile found
  rw [rest] at found
  have without := (reachable_of_session caught).ledger placed raster tile found
  have produced := without.produced.trans now.produced.symm
  have consumed := without.consumed.trans now.consumed.symm
  exact Prod.ext (Nat.add_right_cancel produced)
    (Nat.add_right_cancel (Nat.add_right_cancel consumed))

theorem Reachable.holds {property : Session plan → Prop} (placed : plan.manifest.Placed)
    (always : ∀ session, Session.Reachable plan session → property session)
    (blind : ∀ session consumed, property session →
      property { session with metrics := { session.metrics with consumed } })
    (reached : Reachable plan timed) : property timed.session := by
  obtain ⟨session, without, ⟨consumed, same⟩, _⟩ := reached.exists_session placed
  rw [same]
  exact blind session consumed (always session without)

/-- Deadlines or not, what is queued for a tile is the beginning of its stream, and the requests are
at most two segments ahead of it. -/
theorem Reachable.streams {document : String} {video : VideoSet}
    (parsed : Manifest.parse document = .ok plan.manifest)
    (declared : plan.manifest.videoSets[raster]? = some video) (reached : Reachable plan timed)
    (found : timed.session.tiles[raster]? = some tile) :
    tile.queue.items <:+ tile.history ∧ tile.queue.Within BoundedQueue.eventCapacity ∧
      plan.Begins raster video tile.history ∧
      plan.Paced raster video tile.streamer tile.history := by
  have placed := Manifest.parse_placed parsed
  have without (session : Session plan) (reached : Session.Reachable plan session) :
      ∀ tile, session.tiles[raster]? = some tile →
        tile.queue.items <:+ tile.history ∧ tile.queue.Within BoundedQueue.eventCapacity ∧
          plan.Begins raster video tile.history ∧
          plan.Paced raster video tile.streamer tile.history := by
    intro tile found
    exact ⟨reached.queue_suffix placed.size found, reached.within placed declared found,
      (reached.follows placed declared found).stands.begins, reached.paced placed declared found⟩
  exact reached.holds placed without (fun _ _ known => known) tile found

end Timed

end TiledStream
