import TiledStream.Proofs.Session.Ending

/-! A session only moves forward through its phases, it delivers before it is called streaming, and
it drains before its streams are cancelled. -/

namespace TiledStream

namespace Phase

variable {phase after : Phase}

theorem isLive_eq_true : phase.isLive = true ↔ phase.rank < Phase.draining.rank :=
  decide_eq_true_iff

theorem isLive_eq_false : phase.isLive = false ↔ Phase.draining.rank ≤ phase.rank := by
  rw [← Bool.not_eq_true, isLive_eq_true, Nat.not_lt]

theorem not_live_of_le (dead : phase.isLive = false) (later : phase.rank ≤ after.rank) :
    after.isLive = false := by
  rw [isLive_eq_false] at dead ⊢
  exact Nat.le_trans dead later

theorem rank_le_closed (phase : Phase) : phase.rank ≤ Phase.closed.rank := by
  cases phase <;> decide

theorem eq_created_of_le (later : phase.rank ≤ Phase.created.rank) : phase = .created := by
  cases phase with
  | created => rfl
  | _ => simp [rank] at later

end Phase

namespace Drain

variable {phase after : Phase} {drain following : Drain}

def Knows (phase : Phase) : Drain → Prop
  | .look => True
  | .swap seen => seen.isLive = true
  | .cancel => phase.isLive = false

theorem Knows.later (knows : drain.Knows phase) (later : phase.rank ≤ after.rank) :
    drain.Knows after := by
  cases drain with
  | look => trivial
  | swap seen => exact knows
  | cancel => exact Phase.not_live_of_le knows later

theorem knows_afterSeeing (phase : Phase) : (afterSeeing phase).Knows phase := by
  unfold afterSeeing
  by_cases live : phase.isLive = true
  · rw [if_pos live]
    exact live
  · rw [if_neg live]
    exact Bool.eq_false_iff.mpr live

theorem Knows.rank_le (knows : drain.Knows phase) :
    phase.rank ≤ (drain.step phase).2.1.rank := by
  cases drain with
  | look => exact Nat.le_refl _
  | swap seen =>
      by_cases same : phase = seen
      · -- Only a live phase was ever seen for the swap, so the swap moves forward.
        subst same
        simp only [step, ↓reduceIte]
        exact Nat.le_of_lt (Phase.isLive_eq_true.mp knows)
      · simp only [step, if_neg same, Nat.le_refl]
  | cancel => exact Nat.le_refl _

theorem Knows.step (knows : drain.Knows phase)
    (more : (drain.step phase).1 = some following) :
    following.Knows (drain.step phase).2.1 := by
  cases drain with
  | look =>
      obtain rfl := Option.some.inj more
      exact knows_afterSeeing phase
  | swap seen =>
      by_cases same : phase = seen
      · simp only [Drain.step, if_pos same, Option.some.injEq] at more ⊢
        rw [← more]
        rfl
      · simp only [Drain.step, if_neg same, Option.some.injEq] at more ⊢
        rw [← more]
        exact knows_afterSeeing phase
  | cancel => simp [Drain.step] at more

theorem Knows.cancels (knows : drain.Knows phase) (cancels : (drain.step phase).2.2 = true) :
    (drain.step phase).2.1.isLive = false := by
  cases drain with
  | look => simp [Drain.step] at cancels
  | swap seen =>
      by_cases same : phase = seen <;> simp [Drain.step, same] at cancels
  | cancel => exact knows

end Drain

namespace Stage

variable {engine : Engine} {stage : Stage engine} {phase after : Phase} {history : List TileEvent}

def Knows (phase : Phase) (history : List TileEvent) : Stage engine → Prop
  | .counting _ | .promoting _ => ∃ frame, TileEvent.frame frame ∈ history
  | .draining drain => drain.Knows phase
  | _ => True

theorem Knows.later (knows : stage.Knows phase history) (later : phase.rank ≤ after.rank) :
    stage.Knows after history := by
  cases stage with
  | draining drain => exact Drain.Knows.later knows later
  | _ => exact knows

end Stage

namespace Owner

variable {owner : Owner} {phase after : Phase}

def Knows (phase : Phase) : Owner → Prop
  | .withdrawing _ drain | .retiring drain => drain.Knows phase
  | _ => True

theorem Knows.later (knows : owner.Knows phase) (later : phase.rank ≤ after.rank) :
    owner.Knows after := by
  cases owner with
  | withdrawing _ drain | retiring drain => exact Drain.Knows.later knows later
  | _ => trivial

end Owner

namespace Session

variable {plan : Plan} {session next : Session plan} {raster : Nat}
  {tile after : TileState plan.engine}

def HasQueuedFrame (session : Session plan) : Prop :=
  ∃ tile ∈ session.tiles, ∃ frame, TileEvent.frame frame ∈ tile.history

structure Orderly (session : Session plan) : Prop where
  cancelled : session.cancelled = true → session.phase.isLive = false
  streaming : session.phase = .streaming → session.HasQueuedFrame
  owner : session.owner.Knows session.phase
  workers : ∀ tile ∈ session.tiles, tile.stage.Knows session.phase tile.history

theorem knows_stageAfter (failure : Failure) (phase : Phase) (history : List TileEvent) :
    (stageAfter failure : Stage plan.engine).Knows phase history := by
  cases failure <;> trivial

theorem knows_stageAfterEnd (error : StreamError) (phase : Phase) (history : List TileEvent) :
    (stageAfterEnd error : Stage plan.engine).Knows phase history := by
  unfold stageAfterEnd
  split
  · trivial
  · split <;> trivial

theorem knows_stageAfterMark (fatal : Bool) (phase : Phase) (history : List TileEvent) :
    (stageAfterMark fatal : Stage plan.engine).Knows phase history := by
  cases fatal <;> trivial

theorem Orderly.elsewhere (orderly : Orderly session) (tiles : next.tiles = session.tiles)
    (forward : session.phase.rank ≤ next.phase.rank)
    (cancelled : next.cancelled = true → next.phase.isLive = false)
    (streaming : next.phase = .streaming → session.phase = .streaming)
    (owner : next.owner.Knows next.phase) : Orderly next := by
  refine { cancelled, owner, streaming := ?_, workers := ?_ }
  · intro streams
    rw [HasQueuedFrame, tiles]
    exact orderly.streaming (streaming streams)
  · rw [tiles]
    intro tile member
    exact (orderly.workers tile member).later forward

theorem Orderly.setTile (orderly : Orderly session) (found : session.tiles[raster]? = some tile)
    (tiles : next.tiles = session.tiles.set raster after)
    (history : tile.history <+: after.history)
    (forward : session.phase.rank ≤ next.phase.rank)
    (cancelled : next.cancelled = true → next.phase.isLive = false)
    (streaming : next.phase = .streaming →
      session.phase = .streaming ∨ ∃ frame, TileEvent.frame frame ∈ after.history)
    (owner : next.owner.Knows next.phase)
    (knows : after.stage.Knows next.phase after.history) : Orderly next := by
  have inside := (List.getElem?_eq_some_iff.mp found).1
  have member : after ∈ next.tiles := by
    rw [tiles]
    exact List.mem_set inside after
  refine { cancelled, streaming := ?_, owner, workers := ?_ }
  · intro streams
    rcases streaming streams with before | ⟨frame, queued⟩
    · obtain ⟨other, listed, frame, queued⟩ := orderly.streaming before
      by_cases here : other = tile
      · subst here
        exact ⟨after, member, frame, history.subset queued⟩
      · refine ⟨other, ?_, frame, queued⟩
        rw [tiles]
        exact mem_set_of_ne listed found here
    · exact ⟨after, member, frame, queued⟩
  · intro other listed
    rw [tiles] at listed
    rcases List.mem_or_eq_of_mem_set listed with before | rfl
    · exact (orderly.workers other before).later forward
    · exact knows

theorem Orderly.setTile_same (orderly : Orderly session)
    (found : session.tiles[raster]? = some tile)
    (tiles : next.tiles = session.tiles.set raster after)
    (history : tile.history <+: after.history) (phase : next.phase = session.phase)
    (cancelled : next.cancelled = session.cancelled) (owner : next.owner = session.owner)
    (knows : after.stage.Knows session.phase after.history) : Orderly next := by
  have still : session.phase.rank ≤ next.phase.rank :=
    Nat.le_of_eq (congrArg Phase.rank phase.symm)
  refine orderly.setTile found tiles history still ?_ ?_ ?_ ?_
  · rw [phase, cancelled]
    exact orderly.cancelled
  · intro streams
    rw [phase] at streams
    exact .inl streams
  · rw [phase, owner]
    exact orderly.owner
  · rw [phase]
    exact knows

theorem Orderly.turns (orderly : Orderly session) (tiles : next.tiles = session.tiles)
    (phase : next.phase = session.phase) (cancelled : next.cancelled = session.cancelled)
    (owner : next.owner.Knows session.phase) : Orderly next := by
  refine orderly.elsewhere tiles (Nat.le_of_eq (congrArg Phase.rank phase.symm)) ?_ ?_ ?_
  · rw [phase, cancelled]
    exact orderly.cancelled
  · rw [phase]
    exact id
  · rw [phase]
    exact owner

theorem rank_le_met {phase : Phase} {result : Bool × Barrier}
    (forward : phase.rank ≤ session.phase.rank) :
    phase.rank ≤ (session.met result).phase.rank := by
  unfold met
  split
  · exact phase.rank_le_closed
  · exact forward

theorem streaming_of_met {result : Bool × Barrier}
    (streams : (session.met result).phase = .streaming) : session.phase = .streaming := by
  unfold met at streams
  split at streams
  · cases streams
  · exact streams

/-- The end of a generation closes the session whatever it was at. -/
theorem Orderly.met (orderly : Orderly session) (result : Bool × Barrier) :
    Orderly (session.met result) := by
  have forward : session.phase.rank ≤ (session.met result).phase.rank :=
    rank_le_met (Nat.le_refl _)
  refine orderly.elsewhere (met_tiles session result) forward ?_ ?_ ?_
  · intro cancelled
    rw [met_cancelled] at cancelled
    exact Phase.not_live_of_le (orderly.cancelled cancelled) forward
  · exact streaming_of_met
  · have knows := orderly.owner.later session.phase.rank_le_closed
    unfold Session.met
    split
    · cases call : session.owner with
      | parked generation => trivial
      | _ => simpa only [call] using knows
    · exact orderly.owner

/-- A thread that drains cancels the streams only once it has seen the session drain. -/
theorem Orderly.cancelled_drained {drain : Drain} (orderly : Orderly session)
    (knows : drain.Knows session.phase)
    (cancelled : (session.cancelled || (drain.step session.phase).2.2) = true) :
    (drain.step session.phase).2.1.isLive = false := by
  rcases Bool.or_eq_true_iff.mp cancelled with before | here
  · exact Phase.not_live_of_le (orderly.cancelled before) knows.rank_le
  · exact knows.cancels here

theorem Orderly.ownerDrained {drain : Drain} {owner : Owner} (orderly : Orderly session)
    (knows : drain.Knows session.phase) (owns : owner.Knows (drain.step session.phase).2.1) :
    Orderly ({ session with owner }.drained (drain.step session.phase)) :=
  orderly.elsewhere rfl knows.rank_le (orderly.cancelled_drained knows)
    (fun streams => Drain.eq_of_step_phase streams (by simp)) owns

theorem Orderly.workerDrained {drain : Drain} {stage : Stage plan.engine}
    (orderly : Orderly session) (found : session.tiles[raster]? = some tile)
    (knows : drain.Knows session.phase)
    (follows : stage.Knows (drain.step session.phase).2.1 tile.history) :
    Orderly ((session.setTile raster { tile with stage }).drained (drain.step session.phase)) :=
  orderly.setTile found rfl (List.prefix_refl _) knows.rank_le (orderly.cancelled_drained knows)
    (fun streams => .inl (Drain.eq_of_step_phase streams (by simp)))
    (orderly.owner.later knows.rank_le) follows

theorem WorkerChange.rank_le (orderly : Orderly session)
    (found : session.tiles[raster]? = some tile)
    (change : WorkerChange session raster tile next) :
    session.phase.rank ≤ next.phase.rank := by
  have knows := orderly.workers tile (List.mem_of_getElem? found)
  cases change with
  | promoted work status =>
      dsimp only
      split
      · rename_i prefetching
        rw [prefetching]
        decide
      · exact Nat.le_refl _
  | drains drain following status more =>
      rw [status] at knows
      exact Drain.Knows.rank_le knows
  | drainsLast drain status last =>
      rw [status] at knows
      exact Drain.Knows.rank_le knows
  | left status => exact rank_le_met (Nat.le_refl _)
  | _ => exact Nat.le_refl _

theorem Orderly.workerStep (orderly : Orderly session)
    (found : session.tiles[raster]? = some tile)
    (change : WorkerChange session raster tile next) : Orderly next := by
  have knows := orderly.workers tile (List.mem_of_getElem? found)
  cases change with
  | refused _ failure | unopened _ _ failure | undecoded _ failure =>
      exact orderly.setTile_same found rfl (List.prefix_refl _) rfl rfl rfl
        (knows_stageAfter failure _ _)
  | published request held =>
      refine orderly.setTile_same found rfl (List.prefix_refl _) rfl rfl rfl ?_
      cases held <;> trivial
  | wrote work frame queue =>
      exact orderly.setTile_same found rfl (List.prefix_append _ _) rfl rfl rfl
        ⟨frame, List.mem_append_right _ (List.mem_singleton_self _)⟩
  | counted work status =>
      rw [status] at knows
      exact orderly.setTile_same found rfl (List.prefix_refl _) rfl rfl rfl knows
  | promoted work status =>
      rw [status] at knows
      have forward := (WorkerChange.promoted work status).rank_le orderly found
      refine orderly.setTile found rfl (List.prefix_refl _) forward ?_ (fun _ => .inr knows)
        (orderly.owner.later forward) trivial
      intro cancelled
      exact Phase.not_live_of_le (orderly.cancelled cancelled) forward
  | ended error =>
      exact orderly.setTile_same found rfl (List.prefix_refl _) rfl rfl rfl
        (knows_stageAfterEnd error _ _)
  | marked event fatal queue =>
      exact orderly.setTile_same found rfl (List.prefix_append _ _) rfl rfl rfl
        (knows_stageAfterMark fatal _ _)
  | unmarked event fatal =>
      exact orderly.setTile_same found rfl (List.prefix_refl _) rfl rfl rfl
        (knows_stageAfterMark fatal _ _)
  | drains drain following status more =>
      rw [status] at knows
      exact orderly.workerDrained found knows (Drain.Knows.step knows more)
  | drainsLast drain status last =>
      rw [status] at knows
      exact orderly.workerDrained found knows trivial
  | left status =>
      have gone : Orderly (session.setTile raster { tile with stage := .gone }) :=
        orderly.setTile_same found rfl (List.prefix_refl _) rfl rfl rfl trivial
      exact gone.met _
  | _ => exact orderly.setTile_same found rfl (List.prefix_refl _) rfl rfl rfl trivial

theorem OwnerChange.rank_le (orderly : Orderly session) (change : OwnerChange session next) :
    session.phase.rank ≤ next.phase.rank := by
  have knows := orderly.owner
  cases change with
  | opened call created =>
      rw [created]
      exact Nat.zero_le _
  | dropped | released | arrived => exact rank_le_met (Nat.le_refl _)
  | withdraws _ drain _ call | withdrawn _ drain call | retires drain _ call
  | retired drain call =>
      rw [call] at knows
      exact Drain.Knows.rank_le knows
  | closed => exact session.phase.rank_le_closed
  | _ => exact Nat.le_refl _

theorem Orderly.ownerStep (orderly : Orderly session) (change : OwnerChange session next) :
    Orderly next := by
  have knows := orderly.owner
  cases change with
  | opened call created =>
      refine orderly.elsewhere rfl (by rw [created]; exact Nat.zero_le _) ?_ (by simp) trivial
      intro cancelled
      have dead := orderly.cancelled cancelled
      rw [created] at dead
      cases dead
  | started raster tile call found =>
      exact orderly.setTile found rfl (List.prefix_refl _) (Nat.le_refl _) orderly.cancelled
        .inl trivial trivial
  | dropped raster call =>
      have turned : Orderly { session with owner := .withdrawing raster .look } :=
        orderly.turns rfl rfl rfl trivial
      exact turned.met _
  | withdraws raster drain following call more =>
      rw [call] at knows
      exact orderly.ownerDrained knows (Drain.Knows.step knows more)
  | withdrawn raster drain call =>
      rw [call] at knows
      exact orderly.ownerDrained knows trivial
  | released left call =>
      have turned : Orderly { session with owner := .releasing left } :=
        orderly.turns rfl rfl rfl trivial
      exact turned.met _
  | retires drain following call more =>
      rw [call] at knows
      exact orderly.ownerDrained knows (Drain.Knows.step knows more)
  | retired drain call =>
      rw [call] at knows
      refine orderly.ownerDrained knows ?_
      cases session.holdsBarrier <;> trivial
  | arrived call =>
      have turned (owner : Owner) (knows : owner.Knows session.phase) :
          Orderly { session with holdsBarrier := false, owner } :=
        orderly.turns rfl rfl rfl knows
      refine (turned _ ?_).met _
      cases session.barrier.arrive.1 <;> trivial
  | closed call =>
      exact orderly.elsewhere rfl session.phase.rank_le_closed (fun _ => rfl) (by simp) trivial
  | _ => exact orderly.turns rfl rfl rfl trivial

theorem Orderly.consumerStep (orderly : Orderly session)
    (found : session.tiles[raster]? = some tile)
    (change : ConsumerChange session raster tile next) :
    next.phase = session.phase ∧ Orderly next := by
  have knows := orderly.workers tile (List.mem_of_getElem? found)
  cases change with
  | refused => exact ⟨rfl, orderly⟩
  | began | took | counted =>
      exact ⟨rfl, orderly.setTile_same found rfl (List.prefix_refl _) rfl rfl rfl knows⟩

theorem Orderly.step {action : Action} (orderly : Orderly session)
    (stepped : session.step action = some next) :
    session.phase.rank ≤ next.phase.rank ∧ Orderly next := by
  cases stepChange_of_step stepped with
  | owner starts change => exact ⟨change.rank_le orderly, orderly.ownerStep change⟩
  | worker raster tile found change =>
      exact ⟨change.rank_le orderly found, orderly.workerStep found change⟩
  | consumer raster tile found change =>
      obtain ⟨phase, after⟩ := orderly.consumerStep found change
      exact ⟨Nat.le_of_eq (congrArg Phase.rank phase.symm), after⟩
  | _ => exact ⟨Nat.le_refl _, orderly.turns rfl rfl rfl trivial⟩

theorem Orderly.start (created : create plan = .ok session) : Orderly session := by
  obtain ⟨fields, _, tiles⟩ := create_eq_ok created
  have fresh : ∀ tile ∈ session.tiles, tile.stage.Knows session.phase tile.history := by
    intro tile member
    obtain ⟨raster, found⟩ := List.mem_iff_getElem?.mp member
    obtain ⟨video, tileIndex, _, _, rfl⟩ := tiles raster tile found
    trivial
  refine { cancelled := ?_, streaming := ?_, owner := ?_, workers := fresh }
  · rw [fields]
    simp
  · rw [fields]
    simp
  · rw [fields]
    trivial

theorem Reachable.orderly (reached : Reachable plan session) : Orderly session := by
  induction reached with
  | start created => exact .start created
  | step action _ stepped ih => exact (ih.step stepped).2

theorem Later.trans {last : Session plan} (first : Later session next) (second : Later next last) :
    Later session last := by
  induction second with
  | refl => exact first
  | step action _ stepped ih => exact ih.step action stepped

theorem Later.rank_le (orderly : Orderly session) (later : Later session next) :
    session.phase.rank ≤ next.phase.rank ∧ Orderly next := by
  induction later with
  | refl => exact ⟨Nat.le_refl _, orderly⟩
  | step action _ stepped ih =>
      obtain ⟨forward, after⟩ := ih.2.step stepped
      exact ⟨Nat.le_trans ih.1 forward, after⟩

theorem Later.signals (later : Later session next) : Signals session next := by
  induction later with
  | refl => exact ⟨id, id⟩
  | step action _ stepped ih =>
      have signals := signals_of_step stepped
      exact ⟨fun set => signals.cancelled (ih.cancelled set),
        fun set => signals.terminated (ih.terminated set)⟩

end Session

end TiledStream
