import TiledStream.Proofs.Session.OwnerSteps
import TiledStream.Proofs.Traverse

/-! Every run of a session keeps the meeting at the barrier. -/

namespace TiledStream.Session

variable {plan : Plan} {session next : Session plan} {raster : Nat}
  {tile after : TileState plan.engine}

theorem OwnerFits.of_view {owner : Owner} (known : session.OwnerFits owner)
    (started : next.tiles.map (·.isStarted) = session.tiles.map (·.isStarted))
    (active : next.tiles.countP (·.isActive) = session.tiles.countP (·.isActive))
    (phase : next.phase = session.phase) (barrier : next.barrier = session.barrier)
    (holdsBarrier : next.holdsBarrier = session.holdsBarrier) : next.OwnerFits owner := by
  have unstarted (before : session.someUnstarted) : next.someUnstarted := by
    obtain ⟨tile, member, idle⟩ := before
    have kept : false ∈ next.tiles.map (·.isStarted) := by
      rw [started, ← idle]
      exact List.mem_map_of_mem member
    exact List.mem_map.mp kept
  have nobody (before : session.noneStarted) : next.noneStarted := by
    intro tile member
    have kept : tile.isStarted ∈ session.tiles.map (·.isStarted) := by
      rw [← started]
      exact List.mem_map_of_mem member
    obtain ⟨other, found, same⟩ := List.mem_map.mp kept
    rw [← same]
    exact before other found
  cases owner with
  | idle => simpa only [OwnerFits, holdsBarrier, phase] using known
  | swapping => exact phase.trans known
  | starting raster =>
      refine ⟨holdsBarrier.trans known.1, known.2.1, ?_⟩
      intro index tile found
      have kept := congrArg (·[index]?) started
      simp only [List.getElem?_map, found, Option.map_some] at kept
      obtain ⟨other, found_other, same⟩ := Option.map_eq_some_iff.mp kept.symm
      rw [← same]
      exact known.2.2 index other found_other
  | discarding raster | dropping raster =>
      exact ⟨holdsBarrier.trans known.1, known.2.1, unstarted known.2.2⟩
  | withdrawing raster drain | releasing left =>
      exact ⟨holdsBarrier.trans known.1, unstarted known.2⟩
  | retiring drain =>
      refine ⟨?_, fun alone => nobody (known.2 (holdsBarrier.symm.trans alone))⟩
      rw [phase]
      exact known.1
  | arriving => exact holdsBarrier.trans known
  | parked generation | woken generation =>
      simpa only [OwnerFits, barrier, holdsBarrier, active] using known
  | closing => exact ⟨holdsBarrier.trans known.1, nobody known.2⟩
  | joining => exact phase.trans known

theorem Rendezvous.setTile {metrics : Metrics} (meeting : Rendezvous session)
    (found : session.tiles[raster]? = some tile) (same : after.stage = tile.stage) :
    Rendezvous { session.setTile raster after with metrics } := by
  have same_started : after.isStarted = tile.isStarted := by
    rw [TileState.isStarted, TileState.isStarted, same]
  have active := countP_set_eq (·.isActive) after found
    (by rw [TileState.isActive, TileState.isActive, same])
  have exited := countP_set_eq (·.hasExited) after found
    (by rw [TileState.hasExited, TileState.hasExited, same])
  have started := map_set_eq (·.isStarted) after found same_started
  have due_eq : ({ session.setTile raster after with metrics } : Session plan).due =
      session.due := by
    rw [due, due]
    simp only [Session.setTile]
    rw [active]
  refine {
    size := by simpa [Session.setTile] using meeting.size
    pending := by rw [due_eq]; exact meeting.pending
    generation := meeting.generation
    closed := by rw [due_eq]; exact meeting.closed
    created := ?_
    fits := meeting.fits.of_view started active rfl rfl rfl
    exited := ?_
    exitedStarting := ?_ }
  · intro created
    obtain ⟨alone, nobody, none_exited⟩ := meeting.created created
    refine ⟨alone, ?_, none_exited⟩
    intro other member
    rcases List.mem_or_eq_of_mem_set member with before | rfl
    · exact nobody other before
    · rw [same_started]
      exact nobody tile (List.mem_of_getElem? found)
  · intro all
    simp only [Session.setTile] at all ⊢
    rw [exited]
    refine meeting.exited (forall_set all found fun isStarted => ?_)
    rwa [← same_started]
  · intro index call
    simp only [Session.setTile]
    rw [exited]
    exact meeting.exitedStarting index call

theorem Rendezvous.consumerStep (meeting : Rendezvous session)
    (found : session.tiles[raster]? = some tile)
    (change : ConsumerChange session raster tile next) : Rendezvous next := by
  cases change with
  | refused idle closed => exact meeting
  | began idle live => exact meeting.setTile found rfl
  | took consumer taking => exact meeting.setTile found rfl
  | counted counting => exact meeting.setTile found rfl

theorem Rendezvous.step {action : Action} (meeting : Rendezvous session)
    (stepped : session.step action = some next) : Rendezvous next := by
  have known := meeting.fits
  cases stepChange_of_step stepped with
  | prefetch idle created =>
      exact meeting.goesTo .swapping (by rw [idle]; rfl) created (by simp)
  | prefetchAnswered returned idle opened =>
      rw [idle] at known
      exact meeting.goesTo .idle (by rw [idle]) known (by simp)
  | shutdown idle live =>
      rw [idle] at known
      refine meeting.goesTo (.retiring .look) (by rw [idle]; rfl) ⟨live, fun alone => ?_⟩ (by simp)
      rcases known with holds | created | closed
      · rw [alone] at holds
        exact Bool.noConfusion holds
      · exact (meeting.created created).2.1
      · exact absurd closed live
  | shutdownAnswered idle closed =>
      rw [idle] at known
      exact meeting.goesTo .idle (by rw [idle]) known (by simp)
  | owner starts change => exact meeting.ownerStep change
  | worker raster tile found change => exact meeting.workerStep found change
  | consumer raster tile found change => exact meeting.consumerStep found change
  | roused generation call =>
      rw [call] at known
      exact meeting.goesTo (.woken generation) (by rw [call]; rfl)
        ⟨known.1, known.2.2.1, fun _ => known.2.2.2⟩ (by simp)

theorem create_eq_ok (created : create plan = .ok session) :
    session = {
      phase := .created
      cancelled := false
      terminated := false
      exited := 0
      barrier := Barrier.start 0
      holdsBarrier := false
      workers := 0
      metrics := Metrics.empty
      tiles := session.tiles
      owner := .idle
      returned := .ok () } ∧
    session.tiles.length = plan.manifest.videoSets.length ∧
    ∀ (raster : Nat) (tile : TileState plan.engine), session.tiles[raster]? = some tile →
      ∃ (video : VideoSet) (tileIndex : Nat), plan.manifest.videoSets[raster]? = some video ∧
        plan.manifest.tileIndex video.tile = .ok tileIndex ∧
        tile = TileState.start video.tile video.extent tileIndex := by
  unfold create at created
  obtain ⟨tiles, mapped, created⟩ := bind_eq_ok created
  obtain rfl := Except.ok.inj created
  obtain ⟨length, found⟩ := mapM_eq_ok mapped
  refine ⟨rfl, length, ?_⟩
  intro raster tile at_raster
  obtain ⟨video, at_video, started⟩ := found raster tile at_raster
  obtain ⟨tileIndex, numbered, started⟩ := bind_eq_ok started
  exact ⟨video, tileIndex, at_video, numbered, (Except.ok.inj started).symm⟩

theorem Rendezvous.start (size : plan.manifest.videoSets.length = plan.manifest.tileCount)
    (created : create plan = .ok session) : Rendezvous session := by
  obtain ⟨fields, length, tiles⟩ := create_eq_ok created
  have unstarted (tile : TileState plan.engine) (member : tile ∈ session.tiles) :
      tile.stage = .unstarted := by
    obtain ⟨raster, found⟩ := List.mem_iff_getElem?.mp member
    obtain ⟨video, tileIndex, _, _, rfl⟩ := tiles raster tile found
    rfl
  have nobody : session.noneStarted := fun tile member => by
    rw [TileState.isStarted, unstarted tile member]
  have inactive : session.tiles.countP (·.isActive) = 0 := by
    apply List.countP_eq_zero.mpr
    intro tile member
    simp [TileState.isActive, unstarted tile member, Stage.isActive]
  have noneExited : session.tiles.countP (·.hasExited) = 0 := by
    apply List.countP_eq_zero.mpr
    intro tile member
    simp [TileState.hasExited, unstarted tile member, Stage.hasExited]
  rw [fields]
  exact {
    size := length.trans size
    pending := fun _ => by simp [Barrier.start, due, Owner.reserved, inactive]
    generation := .inl rfl
    closed := by simp
    created := fun _ => ⟨rfl, nobody, rfl⟩
    fits := .inr (.inl rfl)
    exited := fun _ => noneExited.symm
    exitedStarting := by simp }

theorem Reachable.rendezvous (size : plan.manifest.videoSets.length = plan.manifest.tileCount)
    (reached : Reachable plan session) : Rendezvous session := by
  induction reached with
  | start created => exact .start size created
  | step action _ stepped ih => exact ih.step stepped

end TiledStream.Session
