import TiledStream.Proofs.Session.Rendezvous

/-! The owner keeps the meeting at the barrier: it opens the barrier for all workers, leaves in
place of those that it does not start, and arrives once. -/

namespace TiledStream.Session

variable {plan : Plan} {session next : Session plan}

theorem Rendezvous.of_holds (meeting : Rendezvous session)
    (holds : session.holdsBarrier = true) :
    session.phase ≠ .created ∧ session.phase ≠ .closed ∧ session.barrier.generation = 0 := by
  have live : session.phase ≠ .closed := by
    intro closed
    have nobody := meeting.closed closed
    simp only [due, holds, Bool.toNat_true] at nobody
    omega
  refine ⟨?_, live, ?_⟩
  · intro created
    have released := (meeting.created created).1
    rw [holds] at released
    exact Bool.noConfusion released
  · rcases meeting.generation with first | ⟨_, closed⟩
    · exact first
    · exact absurd closed live

theorem Rendezvous.others_due (meeting : Rendezvous session)
    (holds : session.holdsBarrier = true)
    (reserved : 0 < session.owner.reserved plan.manifest.tileCount) :
    1 < session.barrier.pending := by
  have pending := meeting.pending (meeting.of_holds holds).2.2
  simp only [due, holds, Bool.toNat_true] at pending
  omega

theorem noneStarted.countP_eq_zero {busy : TileState plan.engine → Bool}
    (nobody : session.noneStarted) (starts : ∀ tile, busy tile = true → tile.isStarted = true) :
    session.tiles.countP busy = 0 := by
  apply List.countP_eq_zero.mpr
  intro tile member holds
  have idle := nobody tile member
  rw [starts tile holds] at idle
  exact Bool.noConfusion idle

structure Turns (session next : Session plan) : Prop where
  tiles : next.tiles = session.tiles
  barrier : next.barrier = session.barrier
  holdsBarrier : next.holdsBarrier = session.holdsBarrier
  reserved : next.owner.reserved plan.manifest.tileCount =
    session.owner.reserved plan.manifest.tileCount
  closed : next.phase = .closed ↔ session.phase = .closed
  created : next.phase = .created → session.phase = .created
  exited : next.exited = session.exited ∨ session.phase ≠ .created ∧ session.someUnstarted
  fits : next.OwnerFits next.owner
  waits : ∀ raster, next.owner ≠ .starting raster

theorem someUnstarted.not_all (before : session.someUnstarted) :
    ¬∀ tile ∈ session.tiles, tile.isStarted = true := by
  obtain ⟨tile, member, idle⟩ := before
  intro all
  have started := all tile member
  rw [idle] at started
  exact Bool.noConfusion started

theorem Rendezvous.turns (meeting : Rendezvous session) (turns : Turns session next) :
    Rendezvous next := by
  have due_eq : next.due = session.due := by
    rw [due, due, turns.tiles, turns.holdsBarrier, turns.reserved]
  refine {
    size := by rw [turns.tiles, meeting.size]
    pending := by rw [turns.barrier, due_eq]; exact meeting.pending
    generation := by rw [turns.barrier, turns.closed]; exact meeting.generation
    closed := by rw [turns.closed, due_eq]; exact meeting.closed
    created := ?_
    fits := turns.fits
    exited := ?_
    exitedStarting := fun raster call => absurd call (turns.waits raster) }
  · intro created
    have before := turns.created created
    rw [noneStarted, turns.tiles, turns.holdsBarrier]
    rcases turns.exited with same | ⟨opened, _⟩
    · rw [same]
      exact meeting.created before
    · exact absurd before opened
  · intro all
    rw [turns.tiles] at all ⊢
    rcases turns.exited with same | ⟨_, unstarted⟩
    · rw [same]
      exact meeting.exited all
    · exact absurd all unstarted.not_all

theorem Rendezvous.goesTo (owner : Owner) {workers : Nat} {returned : Except StreamError Unit}
    (meeting : Rendezvous session)
    (reserved : owner.reserved plan.manifest.tileCount =
      session.owner.reserved plan.manifest.tileCount)
    (fits : session.OwnerFits owner) (waits : ∀ raster, owner ≠ .starting raster) :
    Rendezvous { session with owner, workers, returned } :=
  meeting.turns {
    tiles := rfl
    barrier := rfl
    holdsBarrier := rfl
    reserved
    closed := .rfl
    created := id
    exited := .inl rfl
    fits := by cases owner <;> exact fits
    waits }

theorem Rendezvous.drains (owner : Owner) {drain : Drain} (meeting : Rendezvous session)
    (live : session.phase ≠ .closed)
    (reserved : owner.reserved plan.manifest.tileCount =
      session.owner.reserved plan.manifest.tileCount)
    (fits : (({ session with owner } : Session plan).drained
      (drain.step session.phase)).OwnerFits owner)
    (waits : ∀ raster, owner ≠ .starting raster) :
    Rendezvous (({ session with owner } : Session plan).drained (drain.step session.phase)) :=
  meeting.turns {
    tiles := rfl
    barrier := rfl
    holdsBarrier := rfl
    reserved
    closed := by
      refine ⟨fun closed => ?_, fun closed => absurd closed live⟩
      exact Drain.eq_of_step_phase closed (by simp)
    created := fun created => Drain.eq_of_step_phase created (by simp)
    exited := .inl rfl
    fits
    waits }

theorem Rendezvous.opens (meeting : Rendezvous session) (created : session.phase = .created) :
    Rendezvous { session with
      phase := .prefetching
      barrier := Barrier.start (plan.manifest.tileCount + 1)
      holdsBarrier := true
      owner := .starting 0 } := by
  obtain ⟨_, nobody, exited⟩ := meeting.created created
  have inactive : session.tiles.countP (·.isActive) = 0 :=
    nobody.countP_eq_zero fun _ => TileState.isStarted_of_isActive
  have nobodyExited : session.tiles.countP (·.hasExited) = 0 :=
    nobody.countP_eq_zero fun _ => TileState.isStarted_of_hasExited
  refine {
    size := meeting.size
    pending := ?_
    generation := .inl rfl
    closed := by simp
    created := by simp
    fits := ⟨rfl, Nat.zero_le _, fun raster tile found => ?_⟩
    exited := fun _ => by rw [exited, nobodyExited]
    exitedStarting := fun _ _ => by rw [exited, nobodyExited] }
  · intro _
    simp only [Barrier.start, due, Owner.reserved, inactive, Bool.toNat_true]
    omega
  · simpa using nobody tile (List.mem_of_getElem? found)

theorem Rendezvous.starts {raster : Nat} {tile : TileState plan.engine}
    (meeting : Rendezvous session) (call : session.owner = .starting raster)
    (found : session.tiles[raster]? = some tile) :
    Rendezvous { session.setTile raster { tile with stage := .requesting none } with
      workers := session.workers + 1
      owner := .starting (raster + 1) } := by
  have known := meeting.fits
  rw [call] at known
  obtain ⟨holds, _, fits⟩ := known
  obtain ⟨opened, live, first⟩ := meeting.of_holds holds
  have idle : tile.isStarted = false := by simpa using fits raster tile found
  have stage := TileState.stage_of_not_isStarted idle
  have inside := (List.getElem?_eq_some_iff.mp found).1
  have active := countP_set_succ (·.isActive) { tile with stage := .requesting none } found
    (by simp [TileState.isActive, stage, Stage.isActive]) rfl
  have exited := countP_set_eq (·.hasExited) { tile with stage := .requesting none } found
    (by simp [TileState.hasExited, stage, Stage.hasExited])
  have counted := meeting.exitedStarting raster call
  have size := meeting.size
  refine {
    size := by simpa [setTile] using size
    pending := ?_
    generation := .inl first
    closed := fun closed => absurd closed live
    created := fun created => absurd created opened
    fits := ⟨holds, by omega, fun index other found_other => ?_⟩
    exited := fun _ => by simp only [setTile]; rw [exited, counted]
    exitedStarting := fun _ _ => by simp only [setTile]; rw [exited, counted] }
  · intro _
    have pending := meeting.pending first
    simp only [due, call, Owner.reserved, setTile] at pending active ⊢
    omega
  · simp only [setTile] at found_other
    rcases found_of_set found_other with ⟨rfl, rfl⟩ | ⟨elsewhere, before⟩
    · simp [TileState.isStarted]
    · rw [fits index other before]
      simp only [decide_eq_decide]
      omega

theorem Rendezvous.withdraws {owner : Owner} (meeting : Rendezvous session)
    (holds : session.holdsBarrier = true) (unstarted : session.someUnstarted)
    (reserved : session.owner.reserved plan.manifest.tileCount =
      owner.reserved plan.manifest.tileCount + 1)
    (fits : ∀ barrier : Barrier, ({ session with owner, barrier } : Session plan).OwnerFits owner)
    (waits : ∀ raster, owner ≠ .starting raster) :
    Rendezvous (({ session with owner } : Session plan).met session.barrier.leave) := by
  obtain ⟨opened, live, first⟩ := meeting.of_holds holds
  have pending := meeting.pending first
  have others := meeting.others_due holds (by omega)
  rw [Barrier.leave_of_others others, met_of_others]
  refine {
    size := meeting.size
    pending := fun _ => ?_
    generation := .inl first
    closed := fun closed => absurd closed live
    created := fun created => absurd created opened
    fits := fits _
    exited := fun all => absurd all unstarted.not_all
    exitedStarting := fun raster call => absurd call (waits raster) }
  simp only [due] at pending ⊢
  omega

theorem Rendezvous.arrives (meeting : Rendezvous session) (call : session.owner = .arriving) :
    Rendezvous (({ session with
      holdsBarrier := false
      owner := if session.barrier.arrive.1 then .joining
        else .parked session.barrier.generation } : Session plan).met session.barrier.arrive) := by
  have holds : session.holdsBarrier = true := by
    have known := meeting.fits
    rwa [call] at known
  obtain ⟨opened, live, first⟩ := meeting.of_holds holds
  have pending := meeting.pending first
  simp only [due, holds, call, Owner.reserved, Bool.toNat_true] at pending
  by_cases last : session.barrier.pending ≤ 1
  · rw [Barrier.arrive_of_last last]
    simp only [met, ↓reduceIte]
    refine {
      size := meeting.size
      pending := by simp
      generation := .inr ⟨by simp [first], rfl⟩
      closed := fun _ => ?_
      created := by simp
      fits := rfl
      exited := meeting.exited
      exitedStarting := by simp }
    simp only [due, Owner.reserved, Bool.toNat_false]
    omega
  · rw [Barrier.arrive_of_others (by omega)]
    simp only [met, Bool.false_eq_true, ↓reduceIte]
    refine {
      size := meeting.size
      pending := ?_
      generation := .inl first
      closed := fun closed => absurd closed live
      created := fun created => absurd created opened
      fits := ⟨first, first, rfl, ?_⟩
      exited := meeting.exited
      exitedStarting := by simp }
    · intro _
      simp only [due, Owner.reserved, Bool.toNat_false]
      omega
    · simp only
      omega

theorem Rendezvous.closes (meeting : Rendezvous session) (call : session.owner = .closing) :
    Rendezvous { session with phase := .closed, owner := .joining } := by
  have known := meeting.fits
  rw [call] at known
  obtain ⟨alone, nobody⟩ := known
  have inactive : session.tiles.countP (·.isActive) = 0 :=
    nobody.countP_eq_zero fun _ => TileState.isStarted_of_isActive
  have nobody_due : session.due = 0 := by
    simp [due, alone, call, Owner.reserved, inactive]
  refine {
    size := meeting.size
    pending := ?_
    generation := meeting.generation.imp_right fun second => ⟨second.1, rfl⟩
    closed := ?_
    created := by simp
    fits := rfl
    exited := meeting.exited
    exitedStarting := by simp }
  · intro first
    have pending := meeting.pending first
    simp only [due, call, Owner.reserved] at pending ⊢
    exact pending
  · intro _
    simp only [due, call, Owner.reserved] at nobody_due ⊢
    exact nobody_due

theorem Rendezvous.ownerStep (meeting : Rendezvous session)
    (change : OwnerChange session next) : Rendezvous next := by
  have known := meeting.fits
  have size := meeting.size
  cases change with
  | opened call created => exact meeting.opens created
  | unopened call opened =>
      rw [call] at known
      exact absurd known opened
  | startedAll raster call found =>
      rw [call] at known
      rw [List.getElem?_eq_none_iff] at found
      refine meeting.goesTo .idle ?_ (.inl known.1) (by simp)
      simp only [call, Owner.reserved]
      omega
  | started raster tile call found => exact meeting.starts call found
  | unstarted raster tile call found =>
      rw [call] at known
      have inside := (List.getElem?_eq_some_iff.mp found).1
      refine meeting.goesTo (.discarding raster) (by simp [call, Owner.reserved])
        ⟨known.1, by omega, tile, List.mem_of_getElem? found, ?_⟩ (by simp)
      simpa using known.2.2 raster tile found
  | discarded raster call =>
      rw [call] at known
      exact meeting.turns {
        tiles := rfl
        barrier := rfl
        holdsBarrier := rfl
        reserved := by simp [call, Owner.reserved]
        closed := .rfl
        created := id
        exited := .inr ⟨(meeting.of_holds known.1).1, known.2.2⟩
        fits := known
        waits := by simp }
  | dropped raster call =>
      rw [call] at known
      obtain ⟨holds, inside, unstarted⟩ := known
      refine meeting.withdraws holds unstarted ?_ (fun _ => ⟨holds, unstarted⟩) (by simp)
      simp only [call, Owner.reserved]
      omega
  | withdraws raster drain following call more =>
      rw [call] at known
      exact meeting.drains (.withdrawing raster following) (meeting.of_holds known.1).2.1
        (by simp [call, Owner.reserved]) known (by simp)
  | withdrawn raster drain call done =>
      rw [call] at known
      exact meeting.drains (.releasing _) (meeting.of_holds known.1).2.1
        (by simp [call, Owner.reserved]) known (by simp)
  | releasedAll call =>
      rw [call] at known
      exact meeting.goesTo .idle (by simp [call, Owner.reserved]) (.inl known.1) (by simp)
  | released left call =>
      rw [call] at known
      refine meeting.withdraws known.1 known.2 ?_ (fun _ => known) (by simp)
      simp only [call, Owner.reserved]
  | retires drain following call more =>
      rw [call] at known
      refine meeting.drains (.retiring following) known.1 (by simp [call, Owner.reserved])
        ⟨fun closed => ?_, known.2⟩ (by simp)
      exact known.1 (Drain.eq_of_step_phase closed (by simp))
  | retired drain call done =>
      rw [call] at known
      by_cases holds : session.holdsBarrier = true
      · rw [if_pos holds]
        exact meeting.drains .arriving known.1 (by simp [call, Owner.reserved]) holds (by simp)
      · rw [if_neg holds]
        have alone : session.holdsBarrier = false := by simpa using holds
        exact meeting.drains .closing known.1 (by simp [call, Owner.reserved])
          ⟨alone, known.2 alone⟩ (by simp)
  | arrived call => exact meeting.arrives call
  | sleepsAgain generation call same =>
      rw [call] at known
      obtain ⟨first, alone, waits⟩ := known
      have current := same.trans first
      exact meeting.goesTo (.parked generation) (by simp [call, Owner.reserved])
        ⟨first, current, alone, waits current⟩ (by simp)
  | wentOn generation call different =>
      rw [call] at known
      have closed : session.phase = .closed := by
        rcases meeting.generation with first | second
        · exact absurd (first.trans known.1.symm) different
        · exact second.2
      exact meeting.goesTo .joining (by simp [call, Owner.reserved]) closed (by simp)
  | closed call => exact meeting.closes call
  | joined call all =>
      rw [call] at known
      exact meeting.goesTo .idle (by simp [call, Owner.reserved]) (.inr (.inr known)) (by simp)

end TiledStream.Session
