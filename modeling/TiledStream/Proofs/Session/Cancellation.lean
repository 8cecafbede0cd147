import TiledStream.Proofs.Session.Containment
import TiledStream.Session.Timeouts

/-! What a cancelled session still does, with a deadline for every write: its workers fetch nothing,
finish at most the segment they have at hand, and leave. -/

namespace TiledStream

namespace Timed

open Session (Rendezvous soloPlan)

variable {plan : Plan} {timed next later : Timed plan} {action : Action} {raster : Nat}
  {tile after : TileState plan.engine}

inductive Change (timed : Timed plan) : Action → Timed plan → Prop where
  | acted (action : Session.Action) (session : Session plan) :
      timed.holdsBack action = false → timed.session.step action = some session →
      Change timed (.act action) { timed with session }
  | expired (raster : Nat) :
      isBlocked timed.session raster = true → raster ∉ timed.refused →
      Change timed (.expire raster) { timed with refused := raster :: timed.refused }
  | again (raster : Nat) :
      timed.session.cancelled = false →
      Change timed (.look raster) { timed with refused := timed.refused.filter (· != raster) }
  | gaveUp (raster : Nat) (tile : TileState plan.engine) (stage : Stage plan.engine) :
      timed.session.cancelled = true → timed.session.tiles[raster]? = some tile →
      stageGivenUp? tile.stage = some stage →
      Change timed (.look raster)
        { session := timed.session.setTile raster { tile with stage }
          refused := timed.refused.filter (· != raster) }

theorem change_of_step (stepped : timed.step action = some next) : Change timed action next := by
  cases action with
  | act action =>
      simp only [step] at stepped
      split at stepped
      · simp at stepped
      · rename_i free
        obtain ⟨session, moved, rfl⟩ := Option.map_eq_some_iff.mp stepped
        exact .acted action session (Bool.eq_false_iff.mpr free) moved
  | expire raster =>
      simp only [step] at stepped
      split at stepped
      · rename_i blocked
        rw [Bool.and_eq_true, Bool.not_eq_true', List.contains_eq_mem, decide_eq_false_iff_not]
          at blocked
        obtain rfl := Option.some.inj stepped
        exact .expired raster blocked.1 blocked.2
      · simp at stepped
  | look raster =>
      simp only [step] at stepped
      split at stepped
      · unfold look at stepped
        split at stepped
        · simp at stepped
        · rename_i tile found
          obtain ⟨stage, given, rfl⟩ := Option.map_eq_some_iff.mp stepped
          cases cancelled : timed.session.cancelled with
          | true => exact .gaveUp raster tile stage cancelled found given
          | false => exact .again raster cancelled
      · simp at stepped

inductive TileChange (timed : Timed plan) (raster : Nat) (tile : TileState plan.engine) :
    Action → TileState plan.engine → Prop where
  | acted (action : Session.Action) (session : Session plan) (after : TileState plan.engine) :
      timed.holdsBack action = false → timed.session.step action = some session →
      Session.TileChange timed.session raster tile action session after →
      TileChange timed raster tile (.act action) after
  | gaveUp (stage : Stage plan.engine) :
      timed.session.cancelled = true → stageGivenUp? tile.stage = some stage →
      TileChange timed raster tile (.look raster) { tile with stage }
  | kept (action : Action) : TileChange timed raster tile action tile

theorem Change.tileChange (change : Change timed action next)
    (found : timed.session.tiles[raster]? = some tile) :
    ∃ after, next.session.tiles[raster]? = some after ∧
      TileChange timed raster tile action after := by
  cases change with
  | acted action session free moved =>
      obtain ⟨after, at_raster, change⟩ := Session.tileChange_of_step moved found
      exact ⟨after, at_raster, .acted action session after free moved change⟩
  | expired | again => exact ⟨tile, found, .kept _⟩
  | gaveUp position other stage cancelled at_position given =>
      refine ⟨_, getElem?_set_of_found found, ?_⟩
      by_cases here : position = raster
      · subst here
        obtain rfl := Option.some.inj (found.symm.trans at_position)
        rw [if_pos rfl]
        exact .gaveUp stage cancelled given
      · rw [if_neg here]
        exact .kept _

theorem stageGivenUp?_eq_some {before stage : Stage plan.engine}
    (given : stageGivenUp? before = some stage) :
    (∃ work frame, before = .writing work frame ∧ stage = .ending .aborted) ∨
      ∃ event fatal, before = .marking event fatal ∧ stage = Session.stageAfterMark fatal := by
  cases before with
  | writing work frame => exact .inl ⟨work, frame, rfl, (Option.some.inj given).symm⟩
  | marking event fatal => exact .inr ⟨event, fatal, rfl, (Option.some.inj given).symm⟩
  | _ => exact nomatch given

theorem isActive_of_stageGivenUp {before stage : Stage plan.engine}
    (given : stageGivenUp? before = some stage) :
    before.isActive = true ∧ stage.isActive = true ∧ before.hasExited = false ∧
      stage.hasExited = false := by
  rcases stageGivenUp?_eq_some given with ⟨_, _, rfl, rfl⟩ | ⟨_, fatal, rfl, rfl⟩
  · exact ⟨rfl, rfl, rfl, rfl⟩
  · exact ⟨rfl, Stage.isActive_stageAfterMark fatal, rfl, Stage.hasExited_stageAfterMark fatal⟩

theorem Change.rendezvous (change : Change timed action next)
    (meeting : Rendezvous timed.session) : Rendezvous next.session := by
  cases change with
  | acted action session _ moved => exact meeting.step moved
  | expired | again => exact meeting
  | gaveUp raster tile stage _ found given =>
      obtain ⟨active, still, stays, not_yet⟩ := isActive_of_stageGivenUp given
      exact (Session.goesOn_setTile _ _ { tile with stage } active still stays not_yet).rendezvous
        found meeting

theorem Reachable.rendezvous (size : plan.manifest.videoSets.length = plan.manifest.tileCount)
    (reached : Reachable plan timed) : Rendezvous timed.session := by
  induction reached with
  | start created => exact .start size created
  | step action _ stepped ih => exact (change_of_step stepped).rendezvous ih

theorem tileChange_of_next (meeting : Rendezvous timed.session)
    (stepped : timed.step action = some next) (found : next.session.tiles[raster]? = some after) :
    ∃ tile, timed.session.tiles[raster]? = some tile ∧
      TileChange timed raster tile action after := by
  have change := change_of_step stepped
  have inside := (List.getElem?_eq_some_iff.mp found).1
  rw [(change.rendezvous meeting).size, ← meeting.size] at inside
  have before := List.getElem?_eq_getElem inside
  obtain ⟨same, at_raster, change⟩ := change.tileChange before
  obtain rfl := Option.some.inj (at_raster.symm.trans found)
  exact ⟨_, before, change⟩

theorem TileChange.numbered (change : TileChange timed raster tile action after)
    (meeting : Rendezvous timed.session) (found : timed.session.tiles[raster]? = some tile)
    (numbered : tile.stage.Numbered tile.streamer) : after.stage.Numbered after.streamer := by
  cases change with
  | acted action session _ _ _ change =>
      cases change with
      | kept => exact numbered
      | worked _ _ change tiles =>
          obtain ⟨other, same, kept⟩ := change.numbered numbered
          obtain rfl := Session.eq_of_set found tiles same
          exact kept
      | started _ _ call =>
          rw [meeting.unstarted call found] at numbered
          exact numbered
      | polled => exact numbered
  | gaveUp stage _ given =>
      rcases stageGivenUp?_eq_some given with ⟨_, _, _, rfl⟩ | ⟨_, fatal, _, rfl⟩
      · trivial
      · exact Session.numbered_stageAfterMark _ fatal
  | kept => exact numbered

theorem Reachable.numbered (size : plan.manifest.videoSets.length = plan.manifest.tileCount)
    (reached : Reachable plan timed) (found : timed.session.tiles[raster]? = some tile) :
    tile.stage.Numbered tile.streamer := by
  induction reached generalizing tile with
  | start created =>
      obtain ⟨_, _, _, _, rfl⟩ := (Session.create_eq_ok created).2.2 raster tile found
      rfl
  | step action reached stepped ih =>
      have meeting := reached.rendezvous size
      obtain ⟨before, at_raster, change⟩ := tileChange_of_next meeting stepped found
      exact change.numbered meeting at_raster (ih at_raster)

def Refused (timed : Timed plan) : Prop :=
  ∀ raster ∈ timed.refused, ∀ tile, timed.session.tiles[raster]? = some tile →
    (stageGivenUp? tile.stage).isSome = true

theorem Refused.step (refused : Refused timed) (meeting : Rendezvous timed.session)
    (stepped : timed.step action = some next) : Refused next := by
  intro raster member after found
  obtain ⟨tile, at_raster, changed⟩ := tileChange_of_next meeting stepped found
  cases change_of_step stepped with
  | acted action session free moved =>
      have waits := refused raster member tile at_raster
      cases changed with
      | kept => exact waits
      | acted _ _ _ _ _ change =>
          cases change with
          | kept => exact waits
          | worked _ own =>
              rw [own, holdsBack, List.contains_eq_mem, decide_eq_true member] at free
              exact Bool.noConfusion free
          | started _ _ call =>
              rw [meeting.unstarted call at_raster] at waits
              exact Bool.noConfusion waits
          | polled => exact waits
  | expired position blocked =>
      rcases List.mem_cons.mp member with rfl | before
      · rw [isBlocked, found, Bool.and_eq_true] at blocked
        exact blocked.1
      · exact refused raster before after found
  | again position =>
      exact refused raster (List.mem_filter.mp member).1 after found
  | gaveUp position other stage =>
      obtain ⟨before, elsewhere⟩ := List.mem_filter.mp member
      have apart : raster ≠ position := bne_iff_ne.mp elsewhere
      rw [Session.setTile, List.getElem?_set_ne apart.symm] at found
      exact refused raster before after found

theorem Reachable.refused (size : plan.manifest.videoSets.length = plan.manifest.tileCount)
    (reached : Reachable plan timed) : Refused timed := by
  induction reached with
  | start created => exact fun _ member => nomatch member
  | step action reached stepped ih => exact ih.step (reached.rendezvous size) stepped

theorem cancelled_of_step (stepped : timed.step action = some next)
    (cancelled : timed.session.cancelled = true) : next.session.cancelled = true := by
  cases change_of_step stepped with
  | acted _ _ _ moved => exact (Session.signals_of_step moved).cancelled cancelled
  | expired | again | gaveUp => exact cancelled

/-- What steps of a cancelled session keep about a tile holds after a run of them. -/
theorem Reachable.along {actions : List Action} (reached : Reachable plan timed)
    (holds : TileState plan.engine → Prop) (cancelled : timed.session.cancelled = true)
    (found : timed.session.tiles[raster]? = some tile) (before : holds tile)
    (ran : timed.run actions = some later) (at_later : later.session.tiles[raster]? = some after)
    (keeps : ∀ (timed : Timed plan) (tile after : TileState plan.engine), ∀ action ∈ actions,
      Reachable plan timed → timed.session.cancelled = true →
      timed.session.tiles[raster]? = some tile → TileChange timed raster tile action after →
      holds tile → holds after) :
    holds after ∧ Reachable plan later ∧ later.session.cancelled = true := by
  induction actions generalizing timed tile with
  | nil =>
      obtain rfl : timed = later := Option.some.inj ran
      obtain rfl := Option.some.inj (found.symm.trans at_later)
      exact ⟨before, reached, cancelled⟩
  | cons action actions ih =>
      obtain ⟨next, stepped, ran⟩ := Option.bind_eq_some_iff.mp ran
      obtain ⟨between, at_next, change⟩ := (change_of_step stepped).tileChange found
      have kept := keeps timed tile between action List.mem_cons_self reached cancelled found
        change before
      exact ih (reached.step action stepped) (cancelled_of_step stepped cancelled) at_next kept ran
        fun timed tile after action member =>
          keeps timed tile after action (List.mem_cons_of_mem _ member)

theorem TileChange.contained (change : TileChange timed raster tile action after)
    (found : timed.session.tiles[raster]? = some tile) (cancelled : timed.session.cancelled = true)
    (numbered : tile.stage.Numbered tile.streamer) : Session.Contained tile after := by
  cases change with
  | acted action session _ _ _ change =>
      cases change with
      | kept => exact .refl tile
      | worked _ _ change tiles =>
          obtain ⟨other, same, contained⟩ := change.contained cancelled numbered
          obtain rfl := Session.eq_of_set found tiles same
          exact contained
      | started => exact Session.contained_stage fun _ atHand => nomatch atHand
      | polled => exact Session.contained_stage fun _ => id
  | gaveUp stage _ given =>
      refine Session.contained_stage fun segment atHand => ?_
      rcases stageGivenUp?_eq_some given with ⟨_, _, _, rfl⟩ | ⟨_, fatal, _, rfl⟩
      · exact nomatch atHand
      · rw [Session.atHand_stageAfterMark] at atHand
        exact nomatch atHand
  | kept => exact .refl tile

def Leaves (tile : TileState plan.engine) (left : Nat) (after : TileState plan.engine) : Prop :=
  after.history = tile.history ∧ ∃ fewer ≤ left, after.stage.stepsOut? = some fewer

theorem TileChange.leaves {before : TileState plan.engine} {left : Nat}
    (change : TileChange timed raster tile action after)
    (found : timed.session.tiles[raster]? = some tile) (meeting : Rendezvous timed.session)
    (cancelled : timed.session.cancelled = true) (leaves : Leaves before left tile) :
    Leaves before left after := by
  obtain ⟨same, fewer, bound, out⟩ := leaves
  cases change with
  | acted action session _ _ _ change =>
      cases change with
      | kept => exact ⟨same, fewer, bound, out⟩
      | worked _ _ change tiles =>
          obtain ⟨other, least, set, history, further, rfl⟩ := change.leaves cancelled out
          obtain rfl := Session.eq_of_set found tiles set
          exact ⟨history.trans same, least, Nat.le_of_succ_le bound, further⟩
      | started _ _ call =>
          rw [meeting.unstarted call found] at out
          exact nomatch out
      | polled => exact ⟨same, fewer, bound, out⟩
  | gaveUp stage _ given =>
      rcases stageGivenUp?_eq_some given with ⟨_, _, status, _⟩ | ⟨_, _, status, _⟩ <;>
        rw [status] at out <;> exact nomatch out
  | kept => exact ⟨same, fewer, bound, out⟩

def Stuck (tile : TileState plan.engine) (after : TileState plan.engine) : Prop :=
  after.history = tile.history ∧ after.queue = tile.queue ∧
    (after = tile ∨ after.stage.hasGivenUp = true)

theorem TileChange.stuck {before : TileState plan.engine} {stage : Stage plan.engine}
    (change : TileChange timed raster tile action after)
    (found : timed.session.tiles[raster]? = some tile) (meeting : Rendezvous timed.session)
    (unpolled : action ≠ .act (.consumer raster)) (given : stageGivenUp? before.stage = some stage)
    (full : before.queue.isFull = true) (stuck : Stuck before tile) : Stuck before after := by
  obtain ⟨history, queue, waits | gaveUp⟩ := stuck
  · subst waits
    cases change with
    | acted action session _ free _ change =>
        cases change with
        | kept => exact ⟨history, queue, .inl rfl⟩
        | worked _ own =>
            rw [own, holdsBack, isBlocked, found] at free
            simp [given, full] at free
        | started _ _ call =>
            rw [meeting.unstarted call found] at given
            exact nomatch given
        | polled _ _ own =>
            rw [own] at unpolled
            exact absurd rfl unpolled
    | gaveUp other _ turned =>
        refine ⟨history, queue, .inr ?_⟩
        rcases stageGivenUp?_eq_some turned with ⟨_, _, _, rfl⟩ | ⟨_, fatal, _, rfl⟩
        · rfl
        · cases fatal <;> rfl
    | kept => exact ⟨history, queue, .inl rfl⟩
  · cases change with
    | acted action session _ _ _ change =>
        cases change with
        | kept => exact ⟨history, queue, .inr gaveUp⟩
        | worked _ _ change tiles =>
            obtain ⟨other, set, same, kept, still⟩ := change.hasGivenUp gaveUp
            obtain rfl := Session.eq_of_set found tiles set
            exact ⟨same.trans history, kept.trans queue, .inr still⟩
        | started _ _ call =>
            rw [meeting.unstarted call found] at gaveUp
            exact nomatch gaveUp
        | polled _ _ own =>
            rw [own] at unpolled
            exact absurd rfl unpolled
    | gaveUp other _ turned =>
        rcases stageGivenUp?_eq_some turned with ⟨_, _, status, _⟩ | ⟨_, _, status, _⟩ <;>
          rw [status] at gaveUp <;> exact nomatch gaveUp
    | kept => exact ⟨history, queue, .inr gaveUp⟩

/-- A worker that gives up its write at the next deadline: the queue refuses it then, and with its
look at the session it turns to another stage. -/
structure GivesUpNext (timed : Timed plan) (raster : Nat) (tile : TileState plan.engine)
    (stage : Stage plan.engine) : Prop where
  waits : timed.step (.act (.worker raster)) = none
  expires : raster ∉ timed.refused →
    timed.step (.expire raster) = some { timed with refused := raster :: timed.refused }
  looks : raster ∈ timed.refused → ∃ next, timed.step (.look raster) = some next ∧
    next.session.tiles[raster]? = some { tile with stage }

theorem givesUpNext {stage : Stage plan.engine} (cancelled : timed.session.cancelled = true)
    (found : timed.session.tiles[raster]? = some tile)
    (given : stageGivenUp? tile.stage = some stage) (full : tile.queue.isFull = true) :
    GivesUpNext timed raster tile stage := by
  have blocked : isBlocked timed.session raster = true := by
    simp [isBlocked, found, given, full]
  refine { waits := ?_, expires := fun fresh => ?_, looks := fun member => ?_ }
  · simp [step, holdsBack, blocked]
  · simp [step, blocked, fresh]
  · refine ⟨_, by simp [step, look, member, found, given, cancelled]; rfl, ?_⟩
    exact List.getElem?_set_self (List.getElem?_eq_some_iff.mp found).1

theorem worker_of_stepsOut {left : Nat} (found : timed.session.tiles[raster]? = some tile)
    (refused : Refused timed) (cancelled : timed.session.cancelled = true)
    (out : tile.stage.stepsOut? = some (left + 1)) :
    ∃ next exit, timed.step (.act (.worker raster)) = some next ∧
      next.session.tiles[raster]? = some exit ∧ exit.stage.stepsOut? = some left := by
  have none_given : stageGivenUp? tile.stage = none := by
    cases status : tile.stage with
    | writing | marking =>
        rw [status] at out
        exact nomatch out
    | _ => rfl
  have fresh : raster ∉ timed.refused := by
    intro member
    have waits := refused raster member tile found
    rw [none_given] at waits
    exact Bool.noConfusion waits
  have free : timed.holdsBack (.worker raster) = false := by
    simp [holdsBack, fresh, isBlocked, found, none_given]
  obtain ⟨session, moved⟩ := Session.workerStep_of_stepsOut found out
  obtain ⟨other, at_raster, change⟩ := Session.workerChange_of_step moved
  obtain rfl := Option.some.inj (found.symm.trans at_raster)
  obtain ⟨after, fewer, tiles, _, further, same⟩ := change.leaves cancelled out
  obtain rfl := Nat.succ.inj same
  refine ⟨{ timed with session }, after, by simp [step, free, Session.step, moved], ?_, further⟩
  rw [tiles]
  exact List.getElem?_set_self (List.getElem?_eq_some_iff.mp found).1

/-- After a session is cancelled no worker fetches anything. A tile still gets frames of at most one
segment, which its worker had at hand with the next one requested. A worker that asks or waits for a
segment then leaves without queueing anything, and one in a write to a full queue that nobody polls
gives up at the next deadline. -/
theorem cancellation_contained {document : String}
    (parsed : Manifest.parse document = .ok plan.manifest) (reached : Reachable plan timed)
    (cancelled : timed.session.cancelled = true)
    (found : timed.session.tiles[raster]? = some tile) :
    (∀ segment, tile.stage.atHand? = some segment →
      tile.streamer.segmentsRequested = segment + 1) ∧
    ∀ actions later after, timed.run actions = some later →
      later.session.tiles[raster]? = some after →
      Session.Contained tile after ∧
      (∀ left, tile.stage.stepsOut? = some left → Leaves tile left after) ∧
      (∀ left, after.stage.stepsOut? = some (left + 1) →
        ∃ next exit, later.step (.act (.worker raster)) = some next ∧
          next.session.tiles[raster]? = some exit ∧ exit.stage.stepsOut? = some left) ∧
      ∀ stage, stageGivenUp? tile.stage = some stage → tile.queue.isFull = true →
        .act (.consumer raster) ∉ actions →
        Stuck tile after ∧ (after = tile → GivesUpNext later raster tile stage) := by
  have size := (Manifest.parse_placed parsed).size
  refine ⟨fun segment atHand => (reached.numbered size found).segmentsRequested atHand, ?_⟩
  intro actions later after ran at_later
  obtain ⟨contained, reached_later, still⟩ := reached.along (Session.Contained tile) cancelled
    found (.refl tile) ran at_later
    fun timed before after action _ reached cancelled found change contained =>
      contained.trans (change.contained found cancelled (reached.numbered size found))
  refine ⟨contained, ?_, ?_, ?_⟩
  · intro left out
    exact (reached.along (Leaves tile left) cancelled found ⟨rfl, left, Nat.le_refl _, out⟩ ran
      at_later fun timed before after action _ reached cancelled found change leaves =>
        change.leaves found (reached.rendezvous size) cancelled leaves).1
  · intro left out
    exact worker_of_stepsOut at_later (reached_later.refused size) still out
  · intro stage given full unpolled
    obtain ⟨stuck, _⟩ := reached.along (Stuck tile) cancelled found ⟨rfl, rfl, .inl rfl⟩ ran
      at_later fun timed before after action member reached cancelled found change stuck =>
        change.stuck found (reached.rendezvous size) (fun same => unpolled (same ▸ member)) given
          full stuck
    refine ⟨stuck, fun waits => ?_⟩
    rw [waits] at at_later
    exact givesUpNext still at_later given full

theorem Reachable.run {actions : List Action} (reached : Reachable plan timed)
    (ran : timed.run actions = some later) : Reachable plan later := by
  induction actions generalizing timed with
  | nil =>
      obtain rfl : timed = later := Option.some.inj ran
      exact reached
  | cons action actions ih =>
      obtain ⟨next, stepped, ran⟩ := Option.bind_eq_some_iff.mp ran
      exact ih (reached.step action stepped) ran

theorem solo_cancellation_contained :
    ∃ (document : String) (timed later : Timed soloPlan) (tile after : TileState soloPlan.engine),
      Manifest.parse document = .ok soloPlan.manifest ∧ Reachable soloPlan timed ∧
      timed.session.cancelled = true ∧ timed.session.tiles[0]? = some tile ∧
      timed.run (List.replicate 8 (.act (.worker 0))) = some later ∧
      later.session.tiles[0]? = some after ∧ tile.stage.atHand? = some 1 ∧
      after.stage.stepsOut? = some 0 ∧ tile.history.length = 0 ∧ after.history.length = 1 ∧
      Session.Contained tile after := by
  obtain ⟨document, _, parsed⟩ := Presentation.parse_document Session.solo_fits
  obtain ⟨timed, later, tile, after, reached, cancelled, found, ran, at_later, atHand, out, before,
      now⟩ :
      ∃ (timed later : Timed soloPlan) (tile after : TileState soloPlan.engine),
        Reachable soloPlan timed ∧ timed.session.cancelled = true ∧
        timed.session.tiles[0]? = some tile ∧
        timed.run (List.replicate 8 (.act (.worker 0))) = some later ∧
        later.session.tiles[0]? = some after ∧ tile.stage.atHand? = some 1 ∧
        after.stage.stepsOut? = some 0 ∧ tile.history.length = 0 ∧ after.history.length = 1 := by
    have started : Session.create soloPlan = .ok _ := rfl
    exact ⟨_, _, _, _, (Reachable.start started).run (show Timed.run _
      (.act .prefetch :: List.replicate 3 (.act (.owner true)) ++
        List.replicate 10 (.act (.worker 0)) ++
        .act .shutdown :: List.replicate 3 (.act (.owner true))) = some _ from rfl),
      rfl, rfl, rfl, rfl, rfl, rfl, rfl, rfl⟩
  obtain ⟨contained, _⟩ :=
    (cancellation_contained parsed reached cancelled found).2 _ later after ran at_later
  exact ⟨document, timed, later, tile, after, parsed, reached, cancelled, found, ran, at_later,
    atHand, out, before, now, contained⟩

theorem blocked_of_holdsBack {session : Session plan} {action : Session.Action}
    (held : holdsBack { session, refused := [] } action = true) :
    ∃ raster tile stage, action = .worker raster ∧ session.tiles[raster]? = some tile ∧
      stageGivenUp? tile.stage = some stage ∧ tile.queue.isFull = true := by
  cases action with
  | worker raster =>
      have blocked : isBlocked session raster = true := held
      unfold isBlocked at blocked
      split at blocked
      · rename_i tile found
        rw [Bool.and_eq_true, Option.isSome_iff_exists] at blocked
        obtain ⟨⟨stage, given⟩, full⟩ := blocked
        exact ⟨raster, tile, stage, rfl, found, given, full⟩
      · simp at blocked
  | _ => exact nomatch held

theorem gaveUp_of_full {session after : Session plan} {stage : Stage plan.engine}
    (stepped : session.step (.worker raster) = some after)
    (found : session.tiles[raster]? = some tile) (given : stageGivenUp? tile.stage = some stage)
    (full : tile.queue.isFull = true) :
    session.cancelled = true ∧ after = session.setTile raster { tile with stage } := by
  rcases stageGivenUp?_eq_some given with ⟨_, _, status, rfl⟩ | ⟨_, _, status, rfl⟩
  all_goals
    simp only [Session.step, Session.workerStep, found, status, Session.queueEvent,
      BoundedQueue.attempt, BoundedQueue.write?, full, if_true] at stepped
    cases cancelled : session.cancelled with
    | false => simp [cancelled] at stepped
    | true =>
        simp only [cancelled, if_true, Option.some.injEq] at stepped
        exact ⟨rfl, stepped.symm⟩

/-- A failed write of a cancelled session is a deadline and the look after it, so that every state
of a session is one of its states with deadlines. -/
theorem reachable_of_session {session : Session plan} (reached : Session.Reachable plan session) :
    Reachable plan { session, refused := [] } := by
  induction reached with
  | start created => exact .start created
  | @step session next action _ stepped ih =>
      cases held : holdsBack { session, refused := [] } action with
      | false => exact ih.step (.act action) (by simp [step, held, stepped])
      | true =>
          obtain ⟨raster, tile, stage, rfl, found, given, full⟩ := blocked_of_holdsBack held
          obtain ⟨cancelled, rfl⟩ := gaveUp_of_full stepped found given full
          have refused : Reachable plan { session, refused := [raster] } :=
            ih.step (.expire raster) (by simp [step, isBlocked, found, given, full])
          exact refused.step (.look raster) (by simp [step, look, found, given, cancelled])

end Timed

end TiledStream
