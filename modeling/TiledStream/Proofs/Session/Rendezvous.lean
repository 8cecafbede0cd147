import TiledStream.Proofs.Exchange
import TiledStream.Proofs.Session.Change

/-! The meeting of owner and workers at the barrier. It has as many participants as there are
workers still to come, workers under way, and an owner that has not arrived. -/

namespace TiledStream

namespace Drain

theorem step_phase (phase : Phase) (drain : Drain) :
    (drain.step phase).2.1 = phase ∨ (drain.step phase).2.1 = .draining := by
  cases drain with
  | look => exact .inl rfl
  | swap seen =>
      simp only [step]
      split
      · exact .inr rfl
      · exact .inl rfl
  | cancel => exact .inl rfl

theorem eq_of_step_phase {phase later : Phase} {drain : Drain}
    (reached : (drain.step phase).2.1 = later) (different : later ≠ .draining) :
    phase = later := by
  rcases step_phase phase drain with same | draining
  · exact same.symm.trans reached
  · exact absurd (reached.symm.trans draining) different

end Drain

namespace Stage

variable {engine : Engine}

def isActive : Stage engine → Bool
  | .unstarted | .gone => false
  | _ => true

def hasExited : Stage engine → Bool
  | .leaving | .gone => true
  | _ => false

@[simp] theorem isActive_stageAfter {plan : Plan} (failure : Failure) :
    (Session.stageAfter failure : Stage plan.engine).isActive = true := by
  cases failure <;> rfl

@[simp] theorem hasExited_stageAfter {plan : Plan} (failure : Failure) :
    (Session.stageAfter failure : Stage plan.engine).hasExited = false := by
  cases failure <;> rfl

@[simp] theorem isActive_stageAfterEnd {plan : Plan} (error : StreamError) :
    (Session.stageAfterEnd error : Stage plan.engine).isActive = true := by
  unfold Session.stageAfterEnd
  split
  · rfl
  · split <;> rfl

@[simp] theorem hasExited_stageAfterEnd {plan : Plan} (error : StreamError) :
    (Session.stageAfterEnd error : Stage plan.engine).hasExited = false := by
  unfold Session.stageAfterEnd
  split
  · rfl
  · split <;> rfl

@[simp] theorem isActive_stageAfterMark {plan : Plan} (fatal : Bool) :
    (Session.stageAfterMark fatal : Stage plan.engine).isActive = true := by
  cases fatal <;> rfl

@[simp] theorem hasExited_stageAfterMark {plan : Plan} (fatal : Bool) :
    (Session.stageAfterMark fatal : Stage plan.engine).hasExited = false := by
  cases fatal <;> rfl

end Stage

namespace TileState

variable {engine : Engine}

def isActive (tile : TileState engine) : Bool := tile.stage.isActive

def hasExited (tile : TileState engine) : Bool := tile.stage.hasExited

theorem isStarted_of_isActive {tile : TileState engine} (active : tile.isActive = true) :
    tile.isStarted = true := by
  unfold isActive at active
  unfold isStarted
  cases status : tile.stage <;> simp_all [Stage.isActive]

theorem isStarted_of_hasExited {tile : TileState engine} (exits : tile.hasExited = true) :
    tile.isStarted = true := by
  unfold hasExited at exits
  unfold isStarted
  cases status : tile.stage <;> simp_all [Stage.hasExited]

theorem stage_of_not_isStarted {tile : TileState engine} (idle : tile.isStarted = false) :
    tile.stage = .unstarted := by
  unfold isStarted at idle
  cases status : tile.stage <;> simp_all

theorem isGone_eq_false_of_isActive {tile : TileState engine} (active : tile.isActive = true) :
    tile.isGone = false := by
  unfold isActive at active
  unfold isGone
  cases status : tile.stage <;> simp_all [Stage.isActive]

theorem isGone_of_isStarted {tile : TileState engine} (started : tile.isStarted = true)
    (idle : tile.isActive = false) : tile.isGone = true ∧ tile.hasExited = true := by
  unfold isStarted at started
  unfold isActive at idle
  unfold isGone hasExited
  cases status : tile.stage <;> simp_all [Stage.isActive, Stage.hasExited]

end TileState

namespace Owner

/-- Participants that the owner brought to the barrier for workers it has not started. -/
def reserved (tiles : Nat) : Owner → Nat
  | .starting raster | .discarding raster | .dropping raster => tiles - raster
  | .withdrawing raster _ => tiles - (raster + 1)
  | .releasing left => left
  | _ => 0

def isShuttingDown : Owner → Bool
  | .retiring _ | .arriving | .parked _ | .woken _ | .closing | .joining => true
  | _ => false

def waitsAt (barrier : Barrier) : Owner → Bool
  | .parked _ => true
  | .woken generation => barrier.generation == generation
  | _ => false

end Owner

namespace Session

variable {plan : Plan}

def due (session : Session plan) : Nat :=
  session.holdsBarrier.toNat + session.owner.reserved plan.manifest.tileCount +
    session.tiles.countP (·.isActive)

def someUnstarted (session : Session plan) : Prop :=
  ∃ tile ∈ session.tiles, tile.isStarted = false

def noneStarted (session : Session plan) : Prop :=
  ∀ tile ∈ session.tiles, tile.isStarted = false

def OwnerFits (session : Session plan) : Owner → Prop
  | .idle => session.holdsBarrier = true ∨ session.phase = .created ∨ session.phase = .closed
  | .swapping => session.phase = .created
  | .starting raster =>
    session.holdsBarrier = true ∧ raster ≤ plan.manifest.tileCount ∧
      ∀ index tile, session.tiles[index]? = some tile → tile.isStarted = decide (index < raster)
  | .discarding raster =>
    session.holdsBarrier = true ∧ raster < plan.manifest.tileCount ∧ session.someUnstarted
  | .dropping raster =>
    session.holdsBarrier = true ∧ raster < plan.manifest.tileCount ∧ session.someUnstarted
  | .withdrawing _ _ => session.holdsBarrier = true ∧ session.someUnstarted
  | .releasing _ => session.holdsBarrier = true ∧ session.someUnstarted
  | .retiring _ =>
    session.phase ≠ .closed ∧ (session.holdsBarrier = false → session.noneStarted)
  | .arriving => session.holdsBarrier = true
  | .parked generation =>
    generation = 0 ∧ session.barrier.generation = 0 ∧ session.holdsBarrier = false ∧
      0 < session.tiles.countP (·.isActive)
  | .woken generation =>
    generation = 0 ∧ session.holdsBarrier = false ∧
      (session.barrier.generation = 0 → 0 < session.tiles.countP (·.isActive))
  | .closing =>
    session.holdsBarrier = false ∧ session.noneStarted
  | .joining => session.phase = .closed

structure Rendezvous (session : Session plan) : Prop where
  size : session.tiles.length = plan.manifest.tileCount
  pending : session.barrier.generation = 0 → session.barrier.pending = session.due
  generation : session.barrier.generation = 0 ∨
    session.barrier.generation = 1 ∧ session.phase = .closed
  closed : session.phase = .closed → session.due = 0
  created : session.phase = .created →
    session.holdsBarrier = false ∧ session.noneStarted ∧ session.exited = 0
  fits : session.OwnerFits session.owner
  exited : (∀ tile ∈ session.tiles, tile.isStarted = true) →
    session.exited = session.tiles.countP (·.hasExited)
  exitedStarting : ∀ raster, session.owner = .starting raster →
    session.exited = session.tiles.countP (·.hasExited)

variable {session next : Session plan} {raster : Nat} {tile after : TileState plan.engine}

theorem met_of_others (barrier : Barrier) :
    session.met (false, barrier) = { session with barrier } := rfl

theorem met_of_last (session : Session plan) (barrier : Barrier)
    (waits : session.owner = .parked 0 ∨ session.owner = .woken 0) :
    session.met (true, barrier) =
      { session with barrier, phase := .closed, owner := .woken 0 } := by
  rcases waits with call | call <;> simp [met, call]

structure GoesOn (session next : Session plan) (raster : Nat)
    (tile after : TileState plan.engine) : Prop where
  tiles : next.tiles = session.tiles.set raster after
  active : tile.isActive = true
  stillActive : after.isActive = true
  barrier : next.barrier = session.barrier
  holdsBarrier : next.holdsBarrier = session.holdsBarrier
  owner : next.owner = session.owner
  notExited : tile.hasExited = false
  exited : next.exited = session.exited + if after.hasExited then 1 else 0
  closed : next.phase = .closed → session.phase = .closed
  created : next.phase = .created → session.phase = .created

theorem goesOn_setTile (session : Session plan) (raster : Nat) (after : TileState plan.engine)
    (active : tile.isActive = true) (stillActive : after.isActive = true)
    (notExited : tile.hasExited = false) (stays : after.hasExited = false) :
    GoesOn session (session.setTile raster after) raster tile after :=
  { tiles := rfl
    active
    stillActive
    barrier := rfl
    holdsBarrier := rfl
    owner := rfl
    notExited
    exited := by simp [setTile, stays]
    closed := id
    created := id }

theorem goesOn_drained {result : Option Drain × Phase × Bool} {drain : Drain}
    (stepped : result = drain.step session.phase)
    (active : tile.isActive = true) (stillActive : after.isActive = true)
    (notExited : tile.hasExited = false) (stays : after.hasExited = false) :
    GoesOn session ((session.setTile raster after).drained result) raster tile after :=
  { tiles := rfl
    active
    stillActive
    barrier := rfl
    holdsBarrier := rfl
    owner := rfl
    notExited
    exited := by simp [drained, setTile, stays]
    closed := fun closed => by
      rw [drained, stepped] at closed
      exact Drain.eq_of_step_phase closed (by simp)
    created := fun created => by
      rw [drained, stepped] at created
      exact Drain.eq_of_step_phase created (by simp) }

theorem WorkerChange.goesOn (change : WorkerChange session raster tile next) :
    (∃ after, GoesOn session next raster tile after) ∨
      (tile.stage = .leaving ∧
        next = (session.setTile raster { tile with stage := .gone }).met session.barrier.leave) := by
  have active (stage : Stage plan.engine) (status : tile.stage = stage)
      (working : stage.isActive = true) : tile.isActive = true := by
    rwa [TileState.isActive, status]
  have stays (stage : Stage plan.engine) (status : tile.stage = stage)
      (working : stage.hasExited = false) : tile.hasExited = false := by
    rwa [TileState.hasExited, status]
  cases change with
  | requested held request streamer status _ =>
      exact .inl ⟨_, goesOn_setTile _ _ _ (active _ status rfl) rfl (stays _ status rfl) rfl⟩
  | refused held failure streamer status _ =>
      exact .inl ⟨_, goesOn_setTile _ _ _ (active _ status rfl) (Stage.isActive_stageAfter failure)
        (stays _ status rfl) (Stage.hasExited_stageAfter failure)⟩
  | recorded request held status =>
      have plain := goesOn_setTile session raster { tile with stage := .publishing request held }
        (active _ status rfl) rfl (stays _ status rfl) rfl
      exact .inl ⟨_, { plain with }⟩
  | published request held status =>
      refine .inl ⟨_, goesOn_setTile _ _ _ (active _ status rfl) ?_ (stays _ status rfl) ?_⟩
      · cases held <;> rfl
      · cases held <;> rfl
  | received request buffers status _ =>
      exact .inl ⟨_, goesOn_setTile _ _ _ (active _ status rfl) rfl (stays _ status rfl) rfl⟩
  | missed request error status _ =>
      exact .inl ⟨_, goesOn_setTile _ _ _ (active _ status rfl) rfl (stays _ status rfl) rfl⟩
  | opened following buffers source status _ =>
      exact .inl ⟨_, goesOn_setTile _ _ _ (active _ status rfl) rfl (stays _ status rfl) rfl⟩
  | unopened following buffers failure status _ =>
      exact .inl ⟨_, goesOn_setTile _ _ _ (active _ status rfl) (Stage.isActive_stageAfter failure)
        (stays _ status rfl) (Stage.hasExited_stageAfter failure)⟩
  | picked work frame rest status _ =>
      exact .inl ⟨_, goesOn_setTile _ _ _ (active _ status rfl) rfl (stays _ status rfl) rfl⟩
  | decoded work batch source status _ _ _ =>
      exact .inl ⟨_, goesOn_setTile _ _ _ (active _ status rfl) rfl (stays _ status rfl) rfl⟩
  | undecoded work failure source status _ _ _ =>
      exact .inl ⟨_, goesOn_setTile _ _ _ (active _ status rfl) (Stage.isActive_stageAfter failure)
        (stays _ status rfl) (Stage.hasExited_stageAfter failure)⟩
  | finished work status _ _ =>
      exact .inl ⟨_, goesOn_setTile _ _ _ (active _ status rfl) rfl (stays _ status rfl) rfl⟩
  | wrote work frame queue status _ =>
      exact .inl ⟨_, goesOn_setTile _ _ _ (active _ status rfl) rfl (stays _ status rfl) rfl⟩
  | abandoned work frame status _ =>
      exact .inl ⟨_, goesOn_setTile _ _ _ (active _ status rfl) rfl (stays _ status rfl) rfl⟩
  | counted work status =>
      have plain := goesOn_setTile session raster { tile with stage := .promoting work }
        (active _ status rfl) rfl (stays _ status rfl) rfl
      exact .inl ⟨_, { plain with }⟩
  | promoted work status =>
      have plain := goesOn_setTile session raster { tile with stage := .decoding work }
        (active _ status rfl) rfl (stays _ status rfl) rfl
      refine .inl ⟨_, { plain with closed := ?_, created := ?_ }⟩
      · simp only
        split <;> simp_all
      · simp only
        split <;> simp_all
  | ended error status =>
      have plain := goesOn_setTile session raster { tile with stage := stageAfterEnd error }
        (active _ status rfl) (Stage.isActive_stageAfterEnd error) (stays _ status rfl)
        (Stage.hasExited_stageAfterEnd error)
      exact .inl ⟨_, { plain with }⟩
  | marked event fatal queue status _ =>
      exact .inl ⟨_, goesOn_setTile _ _ _ (active _ status rfl) (Stage.isActive_stageAfterMark fatal)
        (stays _ status rfl) (Stage.hasExited_stageAfterMark fatal)⟩
  | unmarked event fatal status _ =>
      exact .inl ⟨_, goesOn_setTile _ _ _ (active _ status rfl) (Stage.isActive_stageAfterMark fatal)
        (stays _ status rfl) (Stage.hasExited_stageAfterMark fatal)⟩
  | drains drain following status _ =>
      exact .inl ⟨_, goesOn_drained rfl (active _ status rfl) rfl (stays _ status rfl) rfl⟩
  | drainsLast drain status _ =>
      exact .inl ⟨_, goesOn_drained rfl (active _ status rfl) rfl (stays _ status rfl) rfl⟩
  | exited status =>
      exact .inl ⟨{ tile with stage := .leaving }, {
        tiles := rfl
        active := active _ status rfl
        stillActive := rfl
        barrier := rfl
        holdsBarrier := rfl
        owner := rfl
        notExited := stays _ status rfl
        exited := rfl
        closed := id
        created := id }⟩
  | left status => exact .inr ⟨status, rfl⟩

theorem WorkerChange.active (change : WorkerChange session raster tile next) :
    tile.isActive = true := by
  rcases change.goesOn with ⟨_, goes⟩ | ⟨leaving, _⟩
  · exact goes.active
  · rw [TileState.isActive, leaving]
    rfl

theorem someUnstarted_set (found : session.tiles[raster]? = some tile)
    (started : tile.isStarted = true) (before : session.someUnstarted) :
    ∃ other ∈ session.tiles.set raster after, other.isStarted = false := by
  obtain ⟨other, member, idle⟩ := before
  have different : other ≠ tile := by
    rintro rfl
    rw [started] at idle
    exact Bool.noConfusion idle
  exact ⟨other, mem_set_of_ne member found different, idle⟩

theorem Rendezvous.of_active (meeting : Rendezvous session)
    (found : session.tiles[raster]? = some tile) (active : tile.isActive = true) :
    session.phase ≠ .created ∧ session.phase ≠ .closed ∧ session.barrier.generation = 0 ∧
      ¬session.noneStarted ∧ 0 < session.tiles.countP (·.isActive) := by
  have member := List.mem_of_getElem? found
  have busy : 0 < session.tiles.countP (·.isActive) :=
    List.countP_pos_iff.mpr ⟨tile, member, active⟩
  have started : ¬session.noneStarted := by
    intro none
    have idle := none tile member
    rw [TileState.isStarted_of_isActive active] at idle
    simp at idle
  have live : session.phase ≠ .closed := by
    intro closed
    have nobody := meeting.closed closed
    rw [due] at nobody
    omega
  refine ⟨fun created => started (meeting.created created).2.1, live, ?_, started, busy⟩
  rcases meeting.generation with first | ⟨_, closed⟩
  · exact first
  · exact absurd closed live

theorem GoesOn.due_eq (goes : GoesOn session next raster tile after)
    (found : session.tiles[raster]? = some tile) : next.due = session.due := by
  have counted := countP_set_eq (·.isActive) after found
    (goes.stillActive.trans goes.active.symm)
  rw [due, due, goes.tiles, goes.owner, goes.holdsBarrier, counted]

theorem Rendezvous.fits_set (meeting : Rendezvous session)
    (found : session.tiles[raster]? = some tile) (active : tile.isActive = true)
    (started : after.isStarted = true)
    (tiles : next.tiles = session.tiles.set raster after)
    (holdsBarrier : next.holdsBarrier = session.holdsBarrier)
    (generation : next.barrier.generation = 0)
    (closed : next.phase = .closed → session.phase = .closed)
    (waits : session.owner.waitsAt session.barrier = true →
      0 < next.tiles.countP (·.isActive)) :
    next.OwnerFits session.owner := by
  obtain ⟨notCreated, live, first, notNone, _⟩ := meeting.of_active found active
  have known := meeting.fits
  have tile_started := TileState.isStarted_of_isActive active
  have unstarted (before : session.someUnstarted) : next.someUnstarted := by
    rw [someUnstarted, tiles]
    exact someUnstarted_set found tile_started before
  cases call : session.owner with
  | idle =>
      rw [call] at known
      rcases known with holds | created | closedBefore
      · exact .inl (holdsBarrier.trans holds)
      · exact absurd created notCreated
      · exact absurd closedBefore live
  | swapping =>
      rw [call] at known
      exact absurd known notCreated
  | starting index =>
      rw [call] at known
      refine ⟨holdsBarrier.trans known.1, known.2.1, ?_⟩
      intro other item at_other
      rw [tiles] at at_other
      rcases found_of_set at_other with ⟨rfl, rfl⟩ | ⟨_, before⟩
      · rw [started, ← tile_started]
        exact known.2.2 raster tile found
      · exact known.2.2 other item before
  | discarding index | dropping index =>
      rw [call] at known
      exact ⟨holdsBarrier.trans known.1, known.2.1, unstarted known.2.2⟩
  | withdrawing index drain =>
      rw [call] at known
      exact ⟨holdsBarrier.trans known.1, unstarted known.2⟩
  | releasing left =>
      rw [call] at known
      exact ⟨holdsBarrier.trans known.1, unstarted known.2⟩
  | retiring drain =>
      rw [call] at known
      refine ⟨fun now => known.1 (closed now), ?_⟩
      intro alone
      exact absurd (known.2 (holdsBarrier.symm.trans alone)) notNone
  | arriving =>
      rw [call] at known
      exact holdsBarrier.trans known
  | parked entered =>
      rw [call] at known
      exact ⟨known.1, generation, holdsBarrier.trans known.2.2.1, waits (by rw [call]; rfl)⟩
  | woken entered =>
      rw [call] at known
      refine ⟨known.1, holdsBarrier.trans known.2.1, fun _ => waits ?_⟩
      simp [call, Owner.waitsAt, first, known.1]
  | closing =>
      rw [call] at known
      exact absurd known.2 notNone
  | joining =>
      rw [call] at known
      exact absurd known live

theorem GoesOn.fits (goes : GoesOn session next raster tile after)
    (found : session.tiles[raster]? = some tile) (meeting : Rendezvous session) :
    next.OwnerFits next.owner := by
  obtain ⟨_, _, first, _, busy⟩ := meeting.of_active found goes.active
  have counted := countP_set_eq (·.isActive) after found
    (goes.stillActive.trans goes.active.symm)
  rw [goes.owner]
  refine meeting.fits_set found goes.active (TileState.isStarted_of_isActive goes.stillActive)
    goes.tiles goes.holdsBarrier (by rw [goes.barrier, first]) goes.closed (fun _ => ?_)
  rw [goes.tiles, counted]
  exact busy

theorem GoesOn.exited_eq (goes : GoesOn session next raster tile after)
    (found : session.tiles[raster]? = some tile)
    (counted : session.exited = session.tiles.countP (·.hasExited)) :
    next.exited = next.tiles.countP (·.hasExited) := by
  rw [goes.exited, goes.tiles, counted]
  cases exits : after.hasExited with
  | false =>
      rw [countP_set_eq _ _ found (exits.trans goes.notExited.symm)]
      rfl
  | true =>
      rw [countP_set_succ _ _ found goes.notExited exits]
      rfl

theorem GoesOn.rendezvous (goes : GoesOn session next raster tile after)
    (found : session.tiles[raster]? = some tile) (meeting : Rendezvous session) :
    Rendezvous next := by
  obtain ⟨notCreated, live, first, _, _⟩ := meeting.of_active found goes.active
  refine {
    size := by rw [goes.tiles, List.length_set, meeting.size]
    pending := fun _ => by rw [goes.barrier, goes.due_eq found, meeting.pending first]
    generation := by rw [goes.barrier]; exact .inl first
    closed := fun closed => absurd (goes.closed closed) live
    created := fun created => absurd (goes.created created) notCreated
    fits := goes.fits found meeting
    exited := ?_
    exitedStarting := ?_ }
  · intro all
    rw [goes.tiles] at all
    refine goes.exited_eq found (meeting.exited (forall_set all found ?_))
    intro _
    exact TileState.isStarted_of_isActive goes.active
  · intro index call
    rw [goes.owner] at call
    exact goes.exited_eq found (meeting.exitedStarting index call)

theorem Rendezvous.leave_early (meeting : Rendezvous session)
    (found : session.tiles[raster]? = some tile) (leaving : tile.stage = .leaving)
    (others : 1 < session.barrier.pending) :
    Rendezvous
      ((session.setTile raster { tile with stage := .gone }).met session.barrier.leave) := by
  have active : tile.isActive = true := by rw [TileState.isActive, leaving]; rfl
  have exits : tile.hasExited = true := by rw [TileState.hasExited, leaving]; rfl
  obtain ⟨notCreated, live, first, _, _⟩ := meeting.of_active found active
  have counted := countP_set_pred (·.isActive) { tile with stage := .gone } found active rfl
  have exited := countP_set_eq (·.hasExited) { tile with stage := .gone } found exits.symm
  have pending := meeting.pending first
  rw [Barrier.leave_of_others others, met_of_others]
  refine {
    size := by simpa [setTile] using meeting.size
    pending := ?_
    generation := .inl first
    closed := fun closed => absurd closed live
    created := fun created => absurd created notCreated
    fits := meeting.fits_set found active rfl rfl rfl first id (fun waits => ?_)
    exited := ?_
    exitedStarting := ?_ }
  · intro _
    simp only [due, setTile] at pending counted ⊢
    omega
  · have reserved : session.owner.reserved plan.manifest.tileCount = 0 := by
      cases call : session.owner <;> simp_all [Owner.waitsAt, Owner.reserved]
    have alone : session.holdsBarrier = false := by
      have known := meeting.fits
      cases call : session.owner <;> simp_all [Owner.waitsAt, OwnerFits]
    simp only [due, reserved, alone, setTile, Bool.toNat_false] at pending counted ⊢
    omega
  · intro all
    simp only [setTile] at all ⊢
    rw [exited]
    exact meeting.exited (forall_set all found fun _ => TileState.isStarted_of_isActive active)
  · intro index call
    simp only [setTile]
    rw [exited]
    exact meeting.exitedStarting index call

theorem Rendezvous.owner_of_last (meeting : Rendezvous session)
    (found : session.tiles[raster]? = some tile) (active : tile.isActive = true)
    (last : session.barrier.pending ≤ 1) :
    session.holdsBarrier = false ∧ session.tiles.countP (·.isActive) = 1 ∧
      (session.owner = .parked 0 ∨ session.owner = .woken 0) := by
  obtain ⟨notCreated, live, first, notNone, busy⟩ := meeting.of_active found active
  have pending := meeting.pending first
  have alone : session.holdsBarrier = false := by
    cases holds : session.holdsBarrier with
    | false => rfl
    | true =>
        simp only [due, holds, Bool.toNat_true] at pending
        omega
  -- The worker accounts for the one that is pending, so neither the owner nor a start is due.
  have known := meeting.fits
  refine ⟨alone, ?_, ?_⟩
  · simp only [due] at pending
    omega
  · cases call : session.owner <;> simp_all [OwnerFits]

theorem Rendezvous.leave_last (meeting : Rendezvous session)
    (found : session.tiles[raster]? = some tile) (leaving : tile.stage = .leaving)
    (last : session.barrier.pending ≤ 1) :
    Rendezvous
      ((session.setTile raster { tile with stage := .gone }).met session.barrier.leave) := by
  have active : tile.isActive = true := by rw [TileState.isActive, leaving]; rfl
  have exits : tile.hasExited = true := by rw [TileState.hasExited, leaving]; rfl
  obtain ⟨_, _, first, _, _⟩ := meeting.of_active found active
  obtain ⟨alone, single, waits⟩ := meeting.owner_of_last found active last
  have counted := countP_set_pred (·.isActive) { tile with stage := .gone } found active rfl
  have exited := countP_set_eq (·.hasExited) { tile with stage := .gone } found exits.symm
  rw [Barrier.leave_of_last last,
    met_of_last (session.setTile raster { tile with stage := .gone }) _ waits]
  simp only [setTile]
  refine {
    size := by simpa using meeting.size
    pending := by simp
    generation := .inr ⟨by simp [first], rfl⟩
    closed := ?_
    created := by simp
    fits := ⟨rfl, alone, by simp⟩
    exited := ?_
    exitedStarting := by simp }
  · intro _
    simp only [due, alone, Owner.reserved, Bool.toNat_false]
    omega
  · intro all
    simp only
    rw [exited]
    exact meeting.exited (forall_set all found fun _ => TileState.isStarted_of_isActive active)

theorem Rendezvous.workerStep (meeting : Rendezvous session)
    (found : session.tiles[raster]? = some tile)
    (change : WorkerChange session raster tile next) : Rendezvous next := by
  rcases change.goesOn with ⟨after, goes⟩ | ⟨leaving, rfl⟩
  · exact goes.rendezvous found meeting
  · by_cases last : session.barrier.pending ≤ 1
    · exact meeting.leave_last found leaving last
    · exact meeting.leave_early found leaving (by omega)

end Session

end TiledStream
