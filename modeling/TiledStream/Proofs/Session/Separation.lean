import TiledStream.Proofs.Manifest.Safety
import TiledStream.Proofs.Session.Locality
import TiledStream.Session.Running

/-! Tiles are kept apart: the worker of a tile, its consumer and all that is told about it share one
slot and one label, no other tile has either, and whatever is queued in the slot was decoded from
segments of the tile's own video set. -/

namespace TiledStream

namespace Series

variable {α : Type} {label other : Nat}

theorem change_elsewhere (series : Series α) (initial : α) (update : α → α)
    (apart : other ≠ label) :
    (series.change label initial update).value? other = series.value? other := by
  induction series with
  | nil => simp [change, value?, List.lookup_cons, beq_eq_false_iff_ne.mpr apart]
  | cons entry rest ih =>
      obtain ⟨first, value⟩ := entry
      rw [change]
      split
      · rename_i here
        have skipped : (other == first) = false := by
          rw [here]
          exact beq_eq_false_iff_ne.mpr apart
        simp only [value?, List.lookup_cons, skipped]
      · simp only [value?, List.lookup_cons]
        split
        · rfl
        · exact ih

theorem change_here (series : Series α) (label : Nat) (initial : α) (update : α → α) :
    (series.change label initial update).value? label =
      some (update ((series.value? label).getD initial)) := by
  induction series with
  | nil => simp [change, value?]
  | cons entry rest ih =>
      obtain ⟨first, value⟩ := entry
      rw [change]
      split
      · rename_i here
        simp [here, value?]
      · rename_i elsewhere
        have skipped : (label == first) = false := beq_eq_false_iff_ne.mpr (Ne.symm elsewhere)
        simp only [value?, List.lookup_cons, skipped]
        exact ih

end Series

namespace Metrics

inductive Change (label : Nat) (metrics : Metrics) : Metrics → Prop where
  | kept : Change label metrics metrics
  | produced : Change label metrics (metrics.frameProduced label)
  | consumed : Change label metrics (metrics.frameConsumed label)
  | selected (index : Nat) : Change label metrics (metrics.representationSelected label index)

def under (metrics : Metrics) (label : Nat) : Option Nat × Option Nat × Option Int :=
  (metrics.produced.value? label, metrics.consumed.value? label,
    metrics.representation.value? label)

theorem Change.elsewhere {metrics after : Metrics} {label other : Nat}
    (change : Change label metrics after) (apart : other ≠ label) :
    after.under other = metrics.under other := by
  cases change with
  | kept => rfl
  | produced | consumed | selected => simp [under, frameProduced, frameConsumed,
      representationSelected, Series.change_elsewhere _ _ _ apart]

end Metrics

namespace Plan

variable (plan : Plan) (raster : Nat) (video : VideoSet)

def Brought (fetches : List String) (url : String) (bytes : Bytes) : Prop :=
  ∃ place, fetches[place]? = some url ∧ plan.answer raster place url = .ok bytes

/-- A frame of a tile was decoded from an initialization segment and a media segment that the video
set of the tile names, both of which the tile fetched. -/
def Sourced (fetches : List String) (frame : Frame) : Prop :=
  ∃ chosen path buffers rounds raw,
    video.representations[frame.representation]? = some chosen ∧
    chosen.mediaPath frame.segment = .ok path ∧
    plan.Brought raster fetches (Url.resolve plan.manifestUrl chosen.initialization)
      buffers.initial ∧
    plan.Brought raster fetches (Url.resolve plan.manifestUrl path) buffers.media ∧
    (plan.decodedAt buffers rounds).1[frame.index]? = some raw ∧
    frame = taggedFrame buffers video.extent frame.index raw

variable {plan : Plan} {raster : Nat} {video : VideoSet}

theorem Sourced.grow {fetches longer : List String} {frame : Frame}
    (sourced : plan.Sourced raster video fetches frame) (grown : fetches <+: longer) :
    plan.Sourced raster video longer frame := by
  obtain ⟨chosen, path, buffers, rounds, raw, found, filled, ⟨first, initial, brought⟩,
    ⟨second, media, carried⟩, decoded, tagged⟩ := sourced
  exact ⟨chosen, path, buffers, rounds, raw, found, filled,
    ⟨first, getElem?_longer grown initial, brought⟩,
    ⟨second, getElem?_longer grown media, carried⟩, decoded, tagged⟩

theorem segmentAt_eq_ok {earlier : Nat} {buffers : Buffers}
    (segment : plan.segmentAt raster video earlier = .ok buffers) :
    ∃ wanted, plan.wanted video earlier = .ok wanted ∧
      plan.answer raster (plan.places video earlier).1 wanted.initialization =
        .ok buffers.initial ∧
      plan.answer raster (plan.places video earlier).2 wanted.media = .ok buffers.media ∧
      buffers.segment = earlier + 1 ∧ buffers.representation = wanted.representation := by
  unfold segmentAt at segment
  split at segment
  · simp at segment
  · rename_i wanted granted
    dsimp only at segment
    split at segment
    · simp at segment
    · rename_i media carried
      split at segment
      · simp at segment
      · split at segment
        · simp at segment
        · rename_i initial brought
          obtain rfl := Except.ok.inj segment
          exact ⟨wanted, granted, brought, carried, rfl, rfl⟩

theorem Decodes.sourced {streamer : Streamer} {history : List TileEvent}
    {work : Decoding plan.engine} {queued : Nat} {raw : Frame} {following : List Frame}
    (decodes : plan.Decodes raster video streamer history work queued (raw :: following)) :
    plan.Sourced raster video streamer.fetches
      (taggedFrame work.buffers video.extent queued raw) := by
  obtain ⟨earlier, events, frames, amid, requested, count, _⟩ := decodes
  obtain ⟨wanted, granted, brought, carried, segment, representation⟩ :=
    segmentAt_eq_ok amid.segment
  obtain ⟨_, chosen, path, _, _, found, filled, initialization, media⟩ := wanted_eq_ok granted
  obtain ⟨other, same, at_initial, at_media⟩ := requested.1.fetched earlier (by omega)
  obtain rfl := Except.ok.inj (granted.symm.trans same)
  obtain ⟨rounds, decoded⟩ := amid.decoded
  rw [initialization] at brought at_initial
  rw [media] at carried at_media
  refine ⟨chosen, path, work.buffers, rounds, raw, ?_, ?_, ⟨_, at_initial, brought⟩,
    ⟨_, at_media, carried⟩, ?_, rfl⟩
  · change video.representations[work.buffers.representation]? = some chosen
    rw [representation]
    exact elementAt_eq_ok_iff.mp found
  · change chosen.mediaPath work.buffers.segment = .ok path
    rw [segment]
    exact filled
  · refine getElem?_longer decoded ?_
    change (frames ++ raw :: following)[queued]? = some raw
    rw [← count, List.getElem?_append_right (Nat.le_refl _), Nat.sub_self]
    rfl

end Plan

namespace Session

variable {plan : Plan} {session next : Session plan} {raster label : Nat} {video : VideoSet}
  {tile after : TileState plan.engine}

theorem rasterOf_of_contains (placed : plan.manifest.Placed) {place : Coordinate}
    (inside : plan.manifest.grid.contains place = true) :
    ∃ raster video, rasterOf plan place = .ok raster ∧
      plan.manifest.tileIndex place = .ok (raster + 1) ∧
      place.y * plan.manifest.grid.columns + place.x = raster ∧
      plan.manifest.videoSets[raster]? = some video ∧ video.tile = place := by
  obtain ⟨column, row⟩ := Manifest.contains_iff.mp inside
  obtain ⟨raster, indexed, bound⟩ := rasterIndex_of_contains placed.small inside
  obtain ⟨video, _, tile, found⟩ := placed.videoSet_found column row
  have position := Manifest.position_of_rasterIndex indexed
  have small := placed.small
  rw [position] at found
  refine ⟨raster, video, ?_, ?_, position, found, tile⟩
  · simp [rasterOf, Manifest.checkInside, inside, indexed, bind, Except.bind]
  · refine (fitWord_eq_ok_iff _ _ _).mpr ⟨?_, ?_⟩
    · rw [Manifest.tileCount] at small
      omega
    · omega

structure Slot (plan : Plan) (raster label : Nat) (video : VideoSet)
    (state : TileState plan.engine) : Prop where
  tile : state.streamer.tile = video.tile
  number : state.streamer.tileIndex = label
  stats : state.stats.tileIndex = label
  marker : ∀ event fatal, state.stage = .marking event fatal → event.frame? = none
  sourced : ∀ frame, .frame frame ∈ state.history →
    plan.Sourced raster video state.streamer.fetches frame

theorem Slot.staged (slot : Slot plan raster label video tile) {stage : Stage plan.engine}
    (unmarked : ∀ event fatal, stage = .marking event fatal → event.frame? = none) :
    Slot plan raster label video { tile with stage } :=
  { slot with marker := unmarked }

theorem stageAfterEnd_marker {error : StreamError} {event : TileEvent} {fatal : Bool}
    (marking : (stageAfterEnd error : Stage plan.engine) = .marking event fatal) :
    event.frame? = none := by
  unfold stageAfterEnd at marking
  split at marking
  · cases marking
  · split at marking
    · cases marking
      rfl
    · cases marking
      rfl

theorem Slot.asked (slot : Slot plan raster label video tile) {cancelled : Bool}
    {result : Except Failure SegmentRequest} {streamer : Streamer}
    (placed : plan.manifest.videoSet video.tile = .ok video)
    (represented : video.representations ≠ [])
    (made : tile.streamer.request plan.manifest plan.manifestUrl plan.choose cancelled =
      (result, streamer)) {stage : Stage plan.engine}
    (unmarked : ∀ event fatal, stage = .marking event fatal → event.frame? = none) :
    Slot plan raster label video { tile with streamer, stage } := by
  rw [← slot.tile] at placed
  obtain ⟨same, number, grown⟩ := (Streamer.request_answered placed represented made).keeps
  exact {
    tile := same.trans slot.tile
    number := number.trans slot.number
    stats := slot.stats
    marker := unmarked
    sourced := fun frame queued => (slot.sourced frame queued).grow grown }

theorem WorkerChange.slot (change : WorkerChange session raster tile next)
    (placed : plan.manifest.videoSet video.tile = .ok video)
    (represented : video.representations ≠ [])
    (follows : plan.Follows raster video False tile)
    (slot : Slot plan raster label video tile) :
    ∃ after, next.tiles = session.tiles.set raster after ∧ Slot plan raster label video after := by
  have stands := follows.stands
  cases change with
  | requested held request streamer status made =>
      exact ⟨_, rfl, slot.asked placed represented made nofun⟩
  | refused held failure streamer status made =>
      refine ⟨_, rfl, slot.asked placed represented made ?_⟩
      intro event fatal marking
      cases failure <;> cases marking
  | published request held status =>
      refine ⟨_, rfl, { slot with stats := slot.number, marker := ?_ }⟩
      intro event fatal marking
      cases held <;> cases marking
  | unopened following buffers failure status failed =>
      refine ⟨_, rfl, slot.staged ?_⟩
      intro event fatal marking
      cases failure <;> cases marking
  | undecoded work failure source status taken more ran =>
      refine ⟨_, rfl, slot.staged ?_⟩
      intro event fatal marking
      cases failure <;> cases marking
  | wrote work frame queue status written =>
      rw [status] at stands
      obtain ⟨raw, queued, index, rfl, decodes⟩ := stands
      refine ⟨_, rfl, { slot with marker := nofun, sourced := ?_ }⟩
      intro frame member
      rcases List.mem_append.mp member with earlier | here
      · exact slot.sourced frame earlier
      · obtain rfl := TileEvent.frame.inj (List.mem_singleton.mp here)
        exact decodes.sourced
  | ended error status =>
      exact ⟨_, rfl, slot.staged fun event fatal marking => stageAfterEnd_marker marking⟩
  | marked event fatal queue status written =>
      refine ⟨_, rfl, { slot with marker := ?_, sourced := ?_ }⟩
      · intro event' fatal' marking
        cases fatal <;> cases marking
      · intro frame member
        rcases List.mem_append.mp member with earlier | here
        · exact slot.sourced frame earlier
        · have marker := slot.marker event fatal status
          rw [← List.mem_singleton.mp here] at marker
          cases marker
  | unmarked event fatal status given =>
      refine ⟨_, rfl, slot.staged ?_⟩
      intro event' fatal' marking
      cases fatal <;> cases marking
  | left status => exact ⟨_, met_tiles _ _, slot.staged nofun⟩
  | _ => exact ⟨_, rfl, slot.staged nofun⟩

theorem Reachable.slot (placed : plan.manifest.Placed) (reached : Reachable plan session)
    (declared : plan.manifest.videoSets[raster]? = some video)
    (numbered : plan.manifest.tileIndex video.tile = .ok label)
    (found : session.tiles[raster]? = some tile) : Slot plan raster label video tile := by
  induction reached generalizing tile with
  | start created =>
      obtain ⟨other, tileIndex, at_raster, indexed, rfl⟩ :=
        (create_eq_ok created).2.2 raster tile found
      obtain rfl := Option.some.inj (declared.symm.trans at_raster)
      obtain rfl := Except.ok.inj (numbered.symm.trans indexed)
      exact {
        tile := rfl
        number := rfl
        stats := rfl
        marker := nofun
        sourced := fun frame queued => absurd queued List.not_mem_nil }
  | step action reached stepped ih =>
      obtain ⟨before, at_raster, change⟩ :=
        (reached.rendezvous placed.size).tileChange stepped found
      have slot := ih at_raster
      cases change with
      | kept _ => exact slot
      | worked _ _ change tiles =>
          have represented := placed.represented video (List.mem_of_getElem? declared)
          obtain ⟨other, same, kept⟩ := change.slot (placed.videoSet_tile declared) represented
            (reached.follows placed declared at_raster) slot
          obtain rfl := eq_of_set at_raster tiles same
          exact kept
      | started _ _ _ => exact slot.staged nofun
      | polled queue consumer _ _ => exact { slot with }

theorem Reachable.serves (placed : plan.manifest.Placed) (reached : Reachable plan session)
    (declared : plan.manifest.videoSets[raster]? = some video)
    (found : session.tiles[raster]? = some tile) : tile.streamer.tile = video.tile := by
  obtain ⟨_, _, _, numbered, _⟩ :=
    rasterOf_of_contains placed (placed.inside raster video declared).1
  exact (reached.slot placed declared numbered found).tile

structure Confined (raster label : Nat) (session next : Session plan) : Prop where
  slots : ∀ position, position ≠ raster → next.tiles[position]? = session.tiles[position]?
  entry : Metrics.Change label session.metrics next.metrics
  labels : ∀ other, other ≠ label → next.metrics.under other = session.metrics.under other

theorem confined_of_set (tiles : next.tiles = session.tiles.set raster after)
    (entry : Metrics.Change label session.metrics next.metrics) :
    Confined raster label session next :=
  { slots := fun position apart => by rw [tiles, List.getElem?_set_ne apart.symm]
    entry
    labels := fun _ apart => entry.elsewhere apart }

@[simp] theorem met_metrics (session : Session plan) (result : Bool × Barrier) :
    (session.met result).metrics = session.metrics := by
  unfold met
  split <;> rfl

theorem WorkerChange.metrics (change : WorkerChange session raster tile next) :
    Metrics.Change tile.streamer.tileIndex session.metrics next.metrics := by
  cases change with
  | recorded => exact .selected _
  | counted => exact .produced
  | left =>
      rw [met_metrics]
      exact .kept
  | _ => exact .kept

theorem WorkerChange.queued (change : WorkerChange session raster tile next) :
    ∃ after events, next.tiles = session.tiles.set raster after ∧
      after.history = tile.history ++ events ∧
      after.queue.items = tile.queue.items ++ events := by
  have silent {after : TileState plan.engine} (tiles : next.tiles = session.tiles.set raster after)
      (history : after.history = tile.history) (queue : after.queue = tile.queue) :
      ∃ after events, next.tiles = session.tiles.set raster after ∧
        after.history = tile.history ++ events ∧
        after.queue.items = tile.queue.items ++ events :=
    ⟨after, [], tiles, by rw [history, List.append_nil], by rw [queue, List.append_nil]⟩
  cases change with
  | wrote work frame queue status written =>
      exact ⟨_, [.frame frame], rfl, rfl, BoundedQueue.items_of_written written⟩
  | marked event fatal queue status written =>
      exact ⟨_, [event], rfl, rfl, BoundedQueue.items_of_written written⟩
  | left => exact silent (met_tiles _ _) rfl rfl
  | _ => exact silent rfl rfl rfl

theorem ConsumerChange.confined (change : ConsumerChange session raster tile next)
    (number : tile.streamer.tileIndex = label) : Confined raster label session next := by
  cases change with
  | refused =>
      exact { slots := fun _ _ => rfl, entry := .kept, labels := fun _ _ => rfl }
  | began | took => exact confined_of_set rfl .kept
  | counted => exact confined_of_set rfl (number ▸ .consumed)

theorem create_of_placed (placed : plan.manifest.Placed) :
    ∃ session, create plan = .ok session := by
  have each (video : VideoSet) (member : video ∈ plan.manifest.videoSets) :
      ∃ started : TileState plan.engine, (do
        let tileIndex ← plan.manifest.tileIndex video.tile
        pure (TileState.start video.tile video.extent tileIndex)) = .ok started := by
    obtain ⟨raster, found⟩ := List.mem_iff_getElem?.mp member
    obtain ⟨position, _, _, numbered, _⟩ :=
      rasterOf_of_contains placed (placed.inside raster video found).1
    exact ⟨_, by rw [numbered]; rfl⟩
  obtain ⟨tiles, mapped⟩ := exists_mapM_eq_ok each
  exact ⟨_, by rw [create, mapped]; rfl⟩

theorem poll_eq (live : session.phase ≠ .closed) {place : Coordinate}
    (position : rasterOf plan place = .ok raster)
    (numbered : plan.manifest.tileIndex place = .ok label)
    (found : session.tiles[raster]? = some tile) :
    ∃ after, session.poll place = (.ok tile.queue.take.1, after) ∧
      after.tiles = session.tiles.set raster { tile with queue := tile.queue.take.2 } ∧
      Metrics.Change label session.metrics after.metrics := by
  have taken : session.takeEvent raster =
      .ok (tile.queue.take.1, session.setTile raster { tile with queue := tile.queue.take.2 }) := by
    simp [takeEvent, elementAt, found, bind, Except.bind, pure, Except.pure]
  simp only [poll, if_neg live, position, taken, numbered]
  split
  · exact ⟨_, rfl, rfl, .kept⟩
  · exact ⟨_, rfl, rfl, .consumed⟩

structure Apart (session : Session plan) (place : Coordinate) (raster label : Nat)
    (video : VideoSet) (state : TileState plan.engine) : Prop where
  found : session.tiles[raster]? = some state
  serves : state.streamer.tile = place ∧ state.streamer.tileIndex = label
  alone : ∀ (position : Nat) (other : TileState plan.engine),
    session.tiles[position]? = some other → other.streamer.tile = place → position = raster
  buffered : session.buffered place = .ok state.queue.items.length
  stats : session.stats place = .ok state.stats ∧ state.stats.tileIndex = label
  polled : session.phase ≠ .closed → ∃ after,
    session.poll place = (.ok state.queue.take.1, after) ∧
      after.tiles = session.tiles.set raster { state with queue := state.queue.take.2 } ∧
      Confined raster label session after ∧ ∀ event ∈ state.queue.take.1, event ∈ state.history
  worked : ∀ next, session.step (.worker raster) = some next →
    Confined raster label session next ∧
      ∃ after events, next.tiles[raster]? = some after ∧
        after.history = state.history ++ events ∧
        after.queue.items = state.queue.items ++ events
  consumed : ∀ next, session.step (.consumer raster) = some next →
    Confined raster label session next
  others : ∀ action next, session.step action = some next → action ≠ .worker raster →
    action ≠ .consumer raster → ∃ after, next.tiles[raster]? = some after ∧
      after.queue = state.queue ∧ after.history = state.history ∧ after.stats = state.stats
  queued : state.queue.items <:+ state.history
  sourced : ∀ frame, .frame frame ∈ state.history →
    plan.Sourced raster video state.streamer.fetches frame

theorem Reachable.apart (placed : plan.manifest.Placed) (reached : Reachable plan session)
    {place : Coordinate} (position : rasterOf plan place = .ok raster)
    (numbered : plan.manifest.tileIndex place = .ok label)
    (declared : plan.manifest.videoSets[raster]? = some video) (same : video.tile = place) :
    ∃ state, Apart session place raster label video state := by
  have size := (reached.rendezvous placed.size).size
  have bound : raster < session.tiles.length := by
    rw [size, ← placed.size]
    exact (List.getElem?_eq_some_iff.mp declared).1
  have found := List.getElem?_eq_getElem bound
  generalize session.tiles[raster] = state at found
  subst same
  have slot := reached.slot placed declared numbered found
  have queued := reached.queue_suffix placed.size found
  have at_place : session.tileAt video.tile = .ok state := by
    simp [tileAt, position, elementAt, found, bind, Except.bind]
  refine ⟨state, {
    found
    serves := ⟨slot.tile, slot.number⟩
    alone := ?_
    buffered := by simp [Session.buffered, at_place, bind, Except.bind, pure, Except.pure]
    stats := ⟨by simp [Session.stats, at_place, bind, Except.bind, pure, Except.pure], slot.stats⟩
    polled := ?_
    worked := ?_
    consumed := ?_
    others := ?_
    queued
    sourced := slot.sourced }⟩
  · intro index other at_index tile
    have inside := (List.getElem?_eq_some_iff.mp at_index).1
    rw [size, ← placed.size] at inside
    have there := List.getElem?_eq_getElem inside
    have indexed := (placed.inside index _ there).2
    rw [← reached.serves placed there at_index, tile,
      (placed.inside raster _ declared).2] at indexed
    exact (Except.ok.inj indexed).symm
  · intro live
    obtain ⟨after, polled, tiles, entry⟩ := poll_eq live position numbered found
    refine ⟨after, polled, tiles, confined_of_set tiles entry, ?_⟩
    intro event taken
    have member : event ∈ state.queue.items := by
      rw [← state.queue.take_items, Option.mem_def.mp taken]
      exact List.mem_append_left _ (List.mem_singleton_self event)
    exact queued.subset member
  · intro next stepped
    obtain ⟨tile, at_raster, change⟩ := workerChange_of_step stepped
    obtain rfl := Option.some.inj (found.symm.trans at_raster)
    obtain ⟨after, events, tiles, history, queue⟩ := change.queued
    refine ⟨confined_of_set tiles (slot.number ▸ change.metrics), after, events, ?_, history, queue⟩
    rw [tiles, List.getElem?_set_self bound]
  · intro next stepped
    obtain ⟨tile, at_raster, change⟩ := consumerChange_of_step stepped
    obtain rfl := Option.some.inj (found.symm.trans at_raster)
    exact change.confined slot.number
  · intro action next stepped unworked unconsumed
    obtain ⟨after, at_raster, change⟩ := tileChange_of_step stepped found
    refine ⟨after, at_raster, ?_⟩
    cases change with
    | kept _ | started _ _ _ => exact ⟨rfl, rfl, rfl⟩
    | worked _ worked _ _ => exact absurd worked unworked
    | polled _ _ consumed _ => exact absurd consumed unconsumed

/-- Tiles are never mixed up: every tile inside the grid has a slot and a label of its own, from
which all that is told about the tile is read and to which its worker and its consumer keep, and
every frame in the slot was decoded from segments that the tile's own video set names. -/
theorem tiles_never_mixed {document : String}
    (parsed : Manifest.parse document = .ok plan.manifest) :
    (∃ session, create plan = .ok session) ∧
    (∀ place, plan.manifest.grid.contains place = true → ∃ raster label video,
      rasterOf plan place = .ok raster ∧ plan.manifest.tileIndex place = .ok label ∧
      plan.manifest.videoSet place = .ok video ∧ video.tile = place ∧
      ∀ session, Reachable plan session → ∃ state, Apart session place raster label video state) ∧
    ∀ left right, plan.manifest.grid.contains left = true →
      plan.manifest.grid.contains right = true → left ≠ right →
      rasterOf plan left ≠ rasterOf plan right ∧
        plan.manifest.tileIndex left ≠ plan.manifest.tileIndex right := by
  have placed := Manifest.parse_placed parsed
  refine ⟨create_of_placed placed, ?_, ?_⟩
  · intro place inside
    obtain ⟨raster, video, position, numbered, _, declared, tile⟩ :=
      rasterOf_of_contains placed inside
    refine ⟨raster, raster + 1, video, position, numbered, ?_, tile, ?_⟩
    · exact tile ▸ placed.videoSet_tile declared
    · intro session reached
      exact reached.apart placed position numbered declared tile
  · intro left right inside also apart
    obtain ⟨raster, video, position, numbered, _, declared, tile⟩ :=
      rasterOf_of_contains placed inside
    obtain ⟨raster', video', position', numbered', _, declared', tile'⟩ :=
      rasterOf_of_contains placed also
    have different : raster ≠ raster' := by
      rintro rfl
      obtain rfl := Option.some.inj (declared.symm.trans declared')
      exact apart (tile.symm.trans tile')
    rw [position, position', numbered, numbered']
    simp [different]

theorem duo_tiles_never_mixed :
    ∃ (document : String) (session : Session duoPlan) (video : VideoSet)
      (state : TileState duoPlan.engine),
      Manifest.parse document = .ok duoPlan.manifest ∧
      duoPlan.manifest.grid.contains { x := 1, y := 0 } = true ∧ Reachable duoPlan session ∧
      Apart session { x := 1, y := 0 } 1 2 video state ∧
      session.tiles.map (·.history.length) = [0, 1] ∧
      session.metrics.produced = [(2, 1)] ∧ session.metrics.consumed = [(2, 1)] := by
  obtain ⟨document, _, parsed⟩ := Presentation.parse_document duo_fits
  have ofPlan : Manifest.parse document = .ok duoPlan.manifest := parsed
  obtain ⟨session, reached, lengths, produced, consumed⟩ : ∃ session : Session duoPlan,
      Reachable duoPlan session ∧ session.tiles.map (·.history.length) = [0, 1] ∧
        session.metrics.produced = [(2, 1)] ∧ session.metrics.consumed = [(2, 1)] := by
    have started : create duoPlan = .ok _ := rfl
    exact ⟨_, (Reachable.start started).run (show Session.run
      ([.prefetch, .owner true, .owner true, .owner true] ++ List.replicate 3 (.worker 0) ++
        List.replicate 13 (.worker 1) ++ List.replicate 3 (.consumer 1)) _ = some _ from rfl),
      rfl, rfl, rfl⟩
  obtain ⟨_, tiles, _⟩ := tiles_never_mixed ofPlan
  obtain ⟨raster, label, video, position, numbered, _, _, apart⟩ := tiles { x := 1, y := 0 } rfl
  obtain rfl : 1 = raster := Except.ok.inj position
  obtain rfl : 2 = label := Except.ok.inj numbered
  obtain ⟨state, apart⟩ := apart session reached
  exact ⟨document, session, video, state, parsed, rfl, reached, apart, lengths, produced, consumed⟩

end Session

end TiledStream
