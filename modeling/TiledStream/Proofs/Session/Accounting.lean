import TiledStream.Proofs.Session.Cancellation
import TiledStream.Proofs.Session.Separation

/-! The counters of a tile keep account of the frames in its queue. Either side touches the queue in
one step and its counter in another, so that the account is settled while neither is between the
two. -/

namespace TiledStream

def frameCount (events : List TileEvent) : Nat := events.countP fun event => event.frame?.isSome

theorem frameCount_append (events others : List TileEvent) :
    frameCount (events ++ others) = frameCount events + frameCount others :=
  List.countP_append

theorem frameCount_take (queue : BoundedQueue TileEvent) :
    frameCount queue.items =
      (queue.take.1.bind (·.frame?)).toList.length + frameCount queue.take.2.items := by
  rw [← queue.take_items, frameCount_append]
  congr 1
  cases queue.take.1 with
  | none => rfl
  | some event => cases event <;> rfl

namespace Metrics

variable {metrics after : Metrics} {label : Nat}

def counts (metrics : Metrics) (label : Nat) : Nat × Nat :=
  ((metrics.readProduced label).1, (metrics.readConsumed label).1)

theorem counts_eq_of_under (same : after.under label = metrics.under label) :
    after.counts label = metrics.counts label := by
  obtain ⟨produced, others⟩ := Prod.mk.inj same
  obtain ⟨consumed, _⟩ := Prod.mk.inj others
  simp only [counts, readProduced, readConsumed, produced, consumed]

theorem counts_frameProduced (metrics : Metrics) (label : Nat) :
    (metrics.frameProduced label).counts label =
      ((metrics.counts label).1 + 1, (metrics.counts label).2) := by
  simp [counts, readProduced, readConsumed, frameProduced, Series.change_here]

theorem counts_frameConsumed (metrics : Metrics) (label : Nat) :
    (metrics.frameConsumed label).counts label =
      ((metrics.counts label).1, (metrics.counts label).2 + 1) := by
  simp [counts, readProduced, readConsumed, frameConsumed, Series.change_here]

end Metrics

def Stage.uncounted {engine : Engine} : Stage engine → Nat
  | .counting _ => 1
  | _ => 0

theorem Stage.uncounted_le_one {engine : Engine} (stage : Stage engine) : stage.uncounted ≤ 1 := by
  cases stage <;> simp [Stage.uncounted]

def Consumer.uncounted : Consumer → Nat
  | .counting => 1
  | _ => 0

namespace Session

variable {plan : Plan} {session next : Session plan} {raster label : Nat}
  {tile after : TileState plan.engine}

/-- Every frame that was ever queued for a tile is counted or about to be, on one side by the worker
that queued it, on the other by the consumer unless it is still queued. -/
structure Account (metrics : Metrics) (label : Nat) (tile : TileState plan.engine) : Prop where
  number : tile.streamer.tileIndex = label
  marker : ∀ event fatal, tile.stage = .marking event fatal → event.frame? = none
  produced : (metrics.counts label).1 + tile.stage.uncounted = frameCount tile.history
  consumed : (metrics.counts label).2 + tile.consumer.uncounted + frameCount tile.queue.items =
    frameCount tile.history

theorem uncounted_stageAfter (failure : Failure) :
    (stageAfter failure : Stage plan.engine).uncounted = 0 := by
  cases failure <;> rfl

theorem uncounted_stageAfterEnd (error : StreamError) :
    (stageAfterEnd error : Stage plan.engine).uncounted = 0 := by
  unfold stageAfterEnd
  split
  · rfl
  · split <;> rfl

theorem uncounted_stageAfterMark (fatal : Bool) :
    (stageAfterMark fatal : Stage plan.engine).uncounted = 0 := by
  cases fatal <;> rfl

theorem unmarked_stageAfter (failure : Failure) (event : TileEvent) (fatal : Bool) :
    (stageAfter failure : Stage plan.engine) ≠ .marking event fatal := by
  cases failure <;> nofun

theorem unmarked_stageAfterMark (last : Bool) (event : TileEvent) (fatal : Bool) :
    (stageAfterMark last : Stage plan.engine) ≠ .marking event fatal := by
  cases last <;> nofun

theorem Account.turned (account : Account session.metrics label tile) {metrics : Metrics}
    {stage : Stage plan.engine} {streamer : Streamer} {stats : TileStats}
    (same : metrics.counts label = session.metrics.counts label)
    (number : streamer.tileIndex = tile.streamer.tileIndex)
    (before : tile.stage.uncounted = 0) (now : stage.uncounted = 0)
    (marker : ∀ event fatal, stage = .marking event fatal → event.frame? = none) :
    Account metrics label { tile with streamer, stage, stats } where
  number := number.trans account.number
  marker := marker
  produced := by rw [same, now, ← before, account.produced]
  consumed := by rw [same, account.consumed]

theorem Account.staged (account : Account session.metrics label tile) {stage : Stage plan.engine}
    (before : tile.stage.uncounted = 0) (now : stage.uncounted = 0)
    (marker : ∀ event fatal, stage = .marking event fatal → event.frame? = none) :
    Account session.metrics label { tile with stage } :=
  account.turned rfl rfl before now marker

theorem Account.queued (account : Account session.metrics label tile) {stage : Stage plan.engine}
    {queue : BoundedQueue TileEvent} {event : TileEvent}
    (room : queue.items = tile.queue.items ++ [event]) (before : tile.stage.uncounted = 0)
    (now : stage.uncounted = frameCount [event])
    (marker : ∀ event fatal, stage = .marking event fatal → event.frame? = none) :
    Account session.metrics label
      { tile with queue, history := tile.history ++ [event], stage } where
  number := account.number
  marker := marker
  produced := by rw [now, frameCount_append, ← account.produced, before, Nat.add_zero]
  consumed := by rw [room, frameCount_append, frameCount_append, ← account.consumed, Nat.add_assoc,
    Nat.add_assoc, Nat.add_assoc]

theorem WorkerChange.account (change : WorkerChange session raster tile next)
    (account : Account session.metrics label tile) :
    ∃ after, next.tiles = session.tiles.set raster after ∧ Account next.metrics label after := by
  have idle {stage : Stage plan.engine} (status : tile.stage = stage)
      (none : stage.uncounted = 0) : tile.stage.uncounted = 0 := by rw [status, none]
  cases change with
  | requested held request streamer status made =>
      have number := Streamer.tileIndex_of_request made
      exact ⟨_, rfl, account.turned rfl number (idle status rfl) rfl nofun⟩
  | refused held failure streamer status made =>
      have number := Streamer.tileIndex_of_request made
      exact ⟨_, rfl, account.turned rfl number (idle status rfl) (uncounted_stageAfter failure)
        fun event fatal marking => absurd marking (unmarked_stageAfter failure event fatal)⟩
  | recorded request held status =>
      exact ⟨_, rfl, account.turned rfl rfl (idle status rfl) rfl nofun⟩
  | published request held status =>
      cases held with
      | none => exact ⟨_, rfl, account.turned rfl rfl (idle status rfl) rfl nofun⟩
      | some buffers => exact ⟨_, rfl, account.turned rfl rfl (idle status rfl) rfl nofun⟩
  | received _ _ status | missed _ _ status | opened _ _ _ status | picked _ _ _ status
  | decoded _ _ _ status | finished _ status | abandoned _ _ status | promoted _ status
  | drains _ _ status | drainsLast _ status | exited status =>
      exact ⟨_, rfl, account.staged (idle status rfl) rfl nofun⟩
  | unopened _ _ failure status | undecoded _ failure _ status =>
      exact ⟨_, rfl, account.staged (idle status rfl) (uncounted_stageAfter failure)
        fun event fatal marking => absurd marking (unmarked_stageAfter failure event fatal)⟩
  | wrote work frame queue status written =>
      have room := BoundedQueue.items_of_written written
      exact ⟨_, rfl, account.queued room (idle status rfl) rfl nofun⟩
  | counted work status =>
      have produced := account.produced
      rw [status] at produced
      refine ⟨_, rfl, { account with marker := nofun, produced := ?_, consumed := ?_ }⟩
      · rw [account.number, Metrics.counts_frameProduced]
        exact produced
      · rw [account.number, Metrics.counts_frameProduced]
        exact account.consumed
  | ended error status =>
      exact ⟨_, rfl, account.staged (idle status rfl) (uncounted_stageAfterEnd error)
        fun event fatal => stageAfterEnd_marker⟩
  | marked event fatal queue status written =>
      have room := BoundedQueue.items_of_written written
      have silent : frameCount [event] = 0 := by
        simp [frameCount, account.marker event fatal status]
      have now : (stageAfterMark fatal : Stage plan.engine).uncounted = frameCount [event] :=
        (uncounted_stageAfterMark fatal).trans silent.symm
      exact ⟨_, rfl, account.queued room (idle status rfl) now
        fun event last marking => absurd marking (unmarked_stageAfterMark fatal event last)⟩
  | unmarked event fatal status given =>
      exact ⟨_, rfl, account.staged (idle status rfl) (uncounted_stageAfterMark fatal)
        fun event last marking => absurd marking (unmarked_stageAfterMark fatal event last)⟩
  | left status =>
      rw [met_metrics]
      exact ⟨_, met_tiles _ _, account.staged (idle status rfl) rfl nofun⟩

theorem ConsumerChange.account (change : ConsumerChange session raster tile next)
    (found : session.tiles[raster]? = some tile) (account : Account session.metrics label tile) :
    ∃ after, next.tiles = session.tiles.set raster after ∧ Account next.metrics label after := by
  have consumed := account.consumed
  cases change with
  | refused =>
      obtain ⟨inside, same⟩ := List.getElem?_eq_some_iff.mp found
      refine ⟨tile, ?_, account⟩
      rw [← same, List.set_getElem_self inside]
  | began idle live =>
      rw [idle] at consumed
      exact ⟨_, rfl, { account with consumed }⟩
  | took consumer taking seen =>
      rw [taking, frameCount_take] at consumed
      refine ⟨_, rfl, { account with consumed := ?_ }⟩
      have taken : consumer.uncounted = (tile.queue.take.1.bind (·.frame?)).toList.length := by
        rw [seen]
        cases tile.queue.take.1.bind (·.frame?) <;> rfl
      change _ + consumer.uncounted + _ = _
      rw [taken, Nat.add_assoc]
      exact consumed
  | counted counting =>
      rw [counting] at consumed
      refine ⟨_, rfl, { account with produced := ?_, consumed := ?_ }⟩
      · rw [countConsumed, account.number, Metrics.counts_frameConsumed]
        exact account.produced
      · rw [countConsumed, account.number, Metrics.counts_frameConsumed]
        exact consumed

theorem OwnerChange.metrics (change : OwnerChange session next) :
    next.metrics = session.metrics := by
  cases change with
  | dropped | released | arrived => exact met_metrics _ _
  | _ => rfl

def Ledger (session : Session plan) : Prop :=
  ∀ (raster : Nat) (tile : TileState plan.engine), session.tiles[raster]? = some tile →
    Account session.metrics (raster + 1) tile

theorem Ledger.set (ledger : Ledger session) (tiles : next.tiles = session.tiles.set raster after)
    (entry : Metrics.Change (raster + 1) session.metrics next.metrics)
    (account : Account next.metrics (raster + 1) after) : Ledger next := by
  intro position tile found
  rw [tiles] at found
  rcases found_of_set found with ⟨rfl, rfl⟩ | ⟨elsewhere, found⟩
  · exact account
  · have apart : position + 1 ≠ raster + 1 := fun same => elsewhere (Nat.succ.inj same).symm
    have same := Metrics.counts_eq_of_under (entry.elsewhere apart)
    have before := ledger position tile found
    exact { before with
      produced := by rw [same, before.produced]
      consumed := by rw [same, before.consumed] }

theorem Ledger.ownerStep (ledger : Ledger session) (change : OwnerChange session next)
    (meeting : Rendezvous session) : Ledger next := by
  have metrics := change.metrics
  rcases change.tiles with same | ⟨raster, tile, call, found, tiles⟩
  · intro raster tile found
    rw [same] at found
    rw [metrics]
    exact ledger raster tile found
  · have idle : tile.stage.uncounted = 0 := by rw [meeting.unstarted call found]; rfl
    have account : Account session.metrics (raster + 1) { tile with stage := .requesting none } :=
      (ledger raster tile found).staged idle rfl nofun
    exact ledger.set tiles (metrics ▸ .kept) (metrics ▸ account)

theorem Ledger.step {action : Action} (ledger : Ledger session) (meeting : Rendezvous session)
    (stepped : session.step action = some next) : Ledger next := by
  cases stepChange_of_step stepped with
  | prefetch | prefetchAnswered | shutdown | shutdownAnswered | roused => exact ledger
  | owner _ change => exact ledger.ownerStep change meeting
  | worker raster tile found change =>
      have account := ledger raster tile found
      obtain ⟨after, tiles, kept⟩ := change.account account
      exact ledger.set tiles (account.number ▸ change.metrics) kept
  | consumer raster tile found change =>
      have account := ledger raster tile found
      obtain ⟨after, tiles, kept⟩ := change.account found account
      exact ledger.set tiles (change.confined account.number).entry kept

theorem Ledger.spares {action : Action} (ledger : Ledger session)
    (stepped : session.step action = some next) (unworked : action ≠ .worker raster)
    (unconsumed : action ≠ .consumer raster) :
    next.metrics.counts (raster + 1) = session.metrics.counts (raster + 1) := by
  cases stepChange_of_step stepped with
  | prefetch | prefetchAnswered | shutdown | shutdownAnswered | roused => rfl
  | owner _ change => rw [change.metrics]
  | worker position tile found change =>
      have apart : raster + 1 ≠ tile.streamer.tileIndex := by
        rw [(ledger position tile found).number]
        exact fun same => unworked (congrArg _ (Nat.succ.inj same).symm)
      exact Metrics.counts_eq_of_under (change.metrics.elsewhere apart)
  | consumer position tile found change =>
      have apart : raster + 1 ≠ position + 1 :=
        fun same => unconsumed (congrArg _ (Nat.succ.inj same).symm)
      have confined := change.confined (ledger position tile found).number
      exact Metrics.counts_eq_of_under (confined.labels _ apart)

theorem ledger_start (placed : plan.manifest.Placed) (created : create plan = .ok session) :
    Ledger session := by
  intro raster tile found
  obtain ⟨fields, _, tiles⟩ := create_eq_ok created
  obtain ⟨video, tileIndex, declared, numbered, rfl⟩ := tiles raster tile found
  obtain ⟨inside, indexed⟩ := placed.inside raster video declared
  obtain ⟨position, _, _, follows, here, _⟩ := rasterOf_of_contains placed inside
  obtain rfl : position = raster := here.symm.trans (Manifest.position_of_rasterIndex indexed)
  obtain rfl := Except.ok.inj (numbered.symm.trans follows)
  rw [fields]
  exact { number := rfl, marker := nofun, produced := rfl, consumed := rfl }

end Session

namespace Timed

open Session (Ledger soloPlan)

variable {plan : Plan} {timed next : Timed plan} {action : Action} {raster : Nat}
  {tile : TileState plan.engine}

theorem Change.ledger (change : Change timed action next)
    (meeting : Session.Rendezvous timed.session) (ledger : Ledger timed.session) :
    Ledger next.session := by
  cases change with
  | acted action session _ moved => exact ledger.step meeting moved
  | expired | again => exact ledger
  | gaveUp raster tile stage _ found given =>
      refine ledger.set rfl .kept ?_
      have account := ledger raster tile found
      rcases stageGivenUp?_eq_some given with ⟨_, _, status, rfl⟩ | ⟨event, fatal, status, rfl⟩
      · exact account.staged (by rw [status]; rfl) rfl nofun
      · exact account.staged (by rw [status]; rfl) (Session.uncounted_stageAfterMark fatal)
          fun event last marking => absurd marking (Session.unmarked_stageAfterMark fatal event last)

theorem Reachable.ledger (placed : plan.manifest.Placed) (reached : Reachable plan timed) :
    Ledger timed.session := by
  induction reached with
  | start created => exact Session.ledger_start placed created
  | step action reached stepped ih =>
      exact (change_of_step stepped).ledger (reached.rendezvous placed.size) ih

theorem spares_of_step (ledger : Ledger timed.session) (stepped : timed.step action = some next)
    (unworked : action ≠ .act (.worker raster)) (unconsumed : action ≠ .act (.consumer raster)) :
    next.session.metrics.counts (raster + 1) = timed.session.metrics.counts (raster + 1) := by
  cases change_of_step stepped with
  | acted own session _ moved =>
      exact ledger.spares moved (fun same => unworked (congrArg _ same))
        fun same => unconsumed (congrArg _ same)
  | expired | again | gaveUp => rfl

/-- The counters of a tile and the frames that were queued for it. Markers of an end are counted on
neither side. -/
structure Balance (timed : Timed plan) (raster label : Nat) (tile : TileState plan.engine) :
    Prop where
  produced : (timed.session.metrics.counts label).1 + tile.stage.uncounted =
    frameCount tile.history
  consumed : (timed.session.metrics.counts label).2 + tile.consumer.uncounted +
    frameCount tile.queue.items = frameCount tile.history
  settled : tile.stage.uncounted = 0 → tile.consumer.uncounted = 0 →
    (timed.session.metrics.counts label).1 =
      (timed.session.metrics.counts label).2 + frameCount tile.queue.items
  ahead : (timed.session.metrics.counts label).2 ≤ (timed.session.metrics.counts label).1 + 1
  spared : ∀ action next, timed.step action = some next → action ≠ .act (.worker raster) →
    action ≠ .act (.consumer raster) →
    next.session.metrics.counts label = timed.session.metrics.counts label

theorem balance_of_ledger (ledger : Ledger timed.session)
    (found : timed.session.tiles[raster]? = some tile) :
    Balance timed raster (raster + 1) tile := by
  obtain ⟨_, _, produced, consumed⟩ := ledger raster tile found
  have once := tile.stage.uncounted_le_one
  refine { produced, consumed, settled := ?_, ahead := ?_, spared := ?_ }
  · intro queued taken
    omega
  · omega
  · intro action next stepped unworked unconsumed
    exact spares_of_step ledger stepped unworked unconsumed

/-- Whenever neither the worker of a tile nor its consumer is between the queue and the counter, the
counters differ by the frames in the queue. Amid their steps the consumer is ahead by one frame at
most, and no other step changes the counters. -/
theorem counters_in_balance {document : String}
    (parsed : Manifest.parse document = .ok plan.manifest) (reached : Reachable plan timed)
    {place : Coordinate} (inside : plan.manifest.grid.contains place = true) :
    ∃ raster label tile, Session.rasterOf plan place = .ok raster ∧
      plan.manifest.tileIndex place = .ok label ∧ timed.session.tiles[raster]? = some tile ∧
      Balance timed raster label tile := by
  have placed := Manifest.parse_placed parsed
  obtain ⟨raster, video, position, numbered, _, declared, _⟩ :=
    Session.rasterOf_of_contains placed inside
  have bound : raster < timed.session.tiles.length := by
    rw [(reached.rendezvous placed.size).size, ← placed.size]
    exact (List.getElem?_eq_some_iff.mp declared).1
  have found := List.getElem?_eq_getElem bound
  exact ⟨raster, raster + 1, _, position, numbered, found,
    balance_of_ledger (reached.ledger placed) found⟩

/-- The consumer counts the only frame before the worker that queued it does. -/
theorem solo_consumer_ahead :
    ∃ (document : String) (timed : Timed soloPlan) (tile : TileState soloPlan.engine),
      Manifest.parse document = .ok soloPlan.manifest ∧ Reachable soloPlan timed ∧
      soloPlan.manifest.grid.contains { x := 0, y := 0 } = true ∧
      timed.session.tiles[0]? = some tile ∧ timed.session.metrics.counts 1 = (0, 1) ∧
      tile.stage.uncounted = 1 ∧ tile.queue.items = [] ∧ frameCount tile.history = 1 ∧
      Balance timed 0 1 tile := by
  obtain ⟨document, _, parsed⟩ := Presentation.parse_document Session.solo_fits
  obtain ⟨timed, reached, counts, tiles⟩ : ∃ timed : Timed soloPlan, Reachable soloPlan timed ∧
      timed.session.metrics.counts 1 = (0, 1) ∧
      timed.session.tiles.map (fun tile => (tile.stage.uncounted, tile.queue.items)) =
        [(1, [])] := by
    have started : Session.create soloPlan = .ok _ := rfl
    exact ⟨_, (Reachable.start started).run (show Timed.run _
      (.act .prefetch :: List.replicate 3 (.act (.owner true)) ++
        List.replicate 11 (.act (.worker 0)) ++ List.replicate 3 (.act (.consumer 0))) =
          some _ from rfl), rfl, rfl⟩
  have inside : soloPlan.manifest.grid.contains { x := 0, y := 0 } = true := rfl
  obtain ⟨raster, label, tile, position, numbered, found, balance⟩ :=
    counters_in_balance parsed reached inside
  obtain rfl : 0 = raster := Except.ok.inj position
  obtain rfl : 1 = label := Except.ok.inj numbered
  have here := congrArg (·[0]?) tiles
  simp only [List.getElem?_map, found, Option.map_some, List.getElem?_cons_zero,
    Option.some.injEq, Prod.mk.injEq] at here
  obtain ⟨uncounted, queued⟩ := here
  have produced := balance.produced
  rw [counts, uncounted] at produced
  exact ⟨document, timed, tile, parsed, reached, inside, found, counts, uncounted, queued,
    produced.symm, balance⟩

end Timed

end TiledStream
