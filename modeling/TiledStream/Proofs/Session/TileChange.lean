import TiledStream.Proofs.Session.Runs

/-! What one step of a session does to one of its tiles. -/

namespace TiledStream

namespace BoundedQueue

variable {Item : Type} {queue written : BoundedQueue Item} {item : Item} {cancelled : Bool}

theorem items_of_written (attempted : queue.attempt item cancelled = .written written) :
    written.items = queue.items ++ [item] := by
  unfold attempt at attempted
  split at attempted
  · rename_i later wrote
    obtain rfl : later = written := Attempt.written.inj attempted
    unfold write? at wrote
    split at wrote
    · simp at wrote
    · rename_i room
      rw [← Option.some.inj wrote, append_items_of_room item (by simpa using room)]
  · split at attempted <;> simp at attempted

theorem cancelled_of_abandoned (attempted : queue.attempt item cancelled = .abandoned) :
    cancelled = true := by
  unfold attempt at attempted
  split at attempted
  · simp at attempted
  · split at attempted
    · assumption
    · simp at attempted

end BoundedQueue

namespace Session

variable {plan : Plan}

inductive TileChange (session : Session plan) (raster : Nat) (tile : TileState plan.engine)
    (action : Action) (next : Session plan) : TileState plan.engine → Prop where
  | kept : action ≠ .worker raster → TileChange session raster tile action next tile
  | worked (after : TileState plan.engine) :
      action = .worker raster → WorkerChange session raster tile next →
      next.tiles = session.tiles.set raster after →
      TileChange session raster tile action next after
  | started (starts : Bool) :
      action = .owner starts → session.owner = .starting raster →
      TileChange session raster tile action next { tile with stage := .requesting none }
  | polled (queue : BoundedQueue TileEvent) (consumer : Consumer) :
      action = .consumer raster → queue = tile.queue ∨ queue = tile.queue.take.2 →
      TileChange session raster tile action next { tile with queue, consumer }

variable {session next : Session plan} {raster : Nat} {tile : TileState plan.engine}

theorem WorkerChange.tiles (change : WorkerChange session raster tile next) :
    ∃ after, next.tiles = session.tiles.set raster after := by
  rcases change.goesOn with ⟨after, goes⟩ | ⟨_, rfl⟩
  · exact ⟨after, goes.tiles⟩
  · exact ⟨_, met_tiles _ _⟩

theorem OwnerChange.tiles (change : OwnerChange session next) :
    next.tiles = session.tiles ∨
      ∃ raster tile, session.owner = .starting raster ∧ session.tiles[raster]? = some tile ∧
        next.tiles = session.tiles.set raster { tile with stage := .requesting none } := by
  cases change with
  | started raster tile call found => exact .inr ⟨raster, tile, call, found, rfl⟩
  | dropped | released | arrived => exact .inl (met_tiles _ _)
  | _ => exact .inl rfl

theorem eq_of_set {before after other : TileState plan.engine}
    (found : session.tiles[raster]? = some before)
    (tiles : next.tiles = session.tiles.set raster after)
    (same : next.tiles = session.tiles.set raster other) : other = after := by
  have inside := (List.getElem?_eq_some_iff.mp found).1
  have agree := congrArg (·[raster]?) (same.symm.trans tiles)
  simpa only [List.getElem?_set_self inside, Option.some.injEq] using agree

theorem OwnerChange.tileChange (change : OwnerChange session next) (starts : Bool)
    (found : session.tiles[raster]? = some tile) :
    ∃ after, next.tiles[raster]? = some after ∧
      TileChange session raster tile (.owner starts) next after := by
  rcases change.tiles with same | ⟨position, other, call, at_position, tiles⟩
  · exact ⟨tile, by rw [same, found], .kept (by simp)⟩
  · rw [tiles, getElem?_set_of_found found]
    by_cases here : position = raster
    · subst here
      obtain rfl := Option.some.inj (found.symm.trans at_position)
      exact ⟨_, by rw [if_pos rfl], .started starts rfl call⟩
    · exact ⟨tile, by rw [if_neg here], .kept (by simp)⟩

theorem WorkerChange.tileChange {position : Nat} {other : TileState plan.engine}
    (change : WorkerChange session position other next)
    (at_position : session.tiles[position]? = some other)
    (found : session.tiles[raster]? = some tile) :
    ∃ after, next.tiles[raster]? = some after ∧
      TileChange session raster tile (.worker position) next after := by
  obtain ⟨after, tiles⟩ := change.tiles
  rw [tiles, getElem?_set_of_found found]
  by_cases here : position = raster
  · subst here
    obtain rfl := Option.some.inj (found.symm.trans at_position)
    exact ⟨after, by rw [if_pos rfl], .worked after rfl change tiles⟩
  · exact ⟨tile, by rw [if_neg here], .kept (by simpa using here)⟩

theorem ConsumerChange.tileChange {position : Nat} {other : TileState plan.engine}
    (change : ConsumerChange session position other next)
    (at_position : session.tiles[position]? = some other)
    (found : session.tiles[raster]? = some tile) :
    ∃ after, next.tiles[raster]? = some after ∧
      TileChange session raster tile (.consumer position) next after := by
  have polls (queue : BoundedQueue TileEvent) (consumer : Consumer)
      (taken : queue = other.queue ∨ queue = other.queue.take.2)
      (tiles : next.tiles = session.tiles.set position { other with queue, consumer }) :
      ∃ after, next.tiles[raster]? = some after ∧
        TileChange session raster tile (.consumer position) next after := by
    rw [tiles, getElem?_set_of_found found]
    by_cases here : position = raster
    · subst here
      obtain rfl := Option.some.inj (found.symm.trans at_position)
      exact ⟨_, by rw [if_pos rfl], .polled queue consumer rfl taken⟩
    · exact ⟨tile, by rw [if_neg here], .kept (by simp)⟩
  cases change with
  | refused idle closed => exact ⟨tile, found, .kept (by simp)⟩
  | began idle live => exact polls _ _ (.inl rfl) rfl
  | took consumer taking => exact polls _ _ (.inr rfl) rfl
  | counted counting => exact polls _ _ (.inl rfl) rfl

theorem tileChange_of_step {action : Action} (stepped : session.step action = some next)
    (found : session.tiles[raster]? = some tile) :
    ∃ after, next.tiles[raster]? = some after ∧
      TileChange session raster tile action next after := by
  cases stepChange_of_step stepped with
  | prefetch | prefetchAnswered | shutdown | shutdownAnswered | roused =>
      exact ⟨tile, found, .kept (by simp)⟩
  | owner starts change => exact change.tileChange starts found
  | worker position other at_position change => exact change.tileChange at_position found
  | consumer position other at_position change => exact change.tileChange at_position found

theorem Rendezvous.tileChange {action : Action} {after : TileState plan.engine}
    (meeting : Rendezvous session) (stepped : session.step action = some next)
    (found : next.tiles[raster]? = some after) :
    ∃ tile, session.tiles[raster]? = some tile ∧
      TileChange session raster tile action next after := by
  have inside := (List.getElem?_eq_some_iff.mp found).1
  rw [(meeting.step stepped).size, ← meeting.size] at inside
  have before := List.getElem?_eq_getElem inside
  obtain ⟨same, at_raster, change⟩ := tileChange_of_step stepped before
  obtain rfl := Option.some.inj (at_raster.symm.trans found)
  exact ⟨_, before, change⟩

theorem Rendezvous.unstarted (meeting : Rendezvous session)
    (call : session.owner = .starting raster) (found : session.tiles[raster]? = some tile) :
    tile.stage = .unstarted := by
  have known := meeting.fits
  rw [call] at known
  exact TileState.stage_of_not_isStarted (by simpa using known.2.2 raster tile found)

theorem WorkerChange.queue_suffix {after : TileState plan.engine}
    (change : WorkerChange session raster tile next) (found : session.tiles[raster]? = some tile)
    (queued : tile.queue.items <:+ tile.history) (at_raster : next.tiles[raster]? = some after) :
    after.queue.items <:+ after.history := by
  have inside := (List.getElem?_eq_some_iff.mp found).1
  cases change with
  | wrote work frame queue status written =>
      simp only [setTile, List.getElem?_set_self inside, Option.some.injEq] at at_raster
      rw [← at_raster, BoundedQueue.items_of_written written]
      exact List.suffix_append_self_iff.mpr queued
  | marked event fatal queue status written =>
      simp only [setTile, List.getElem?_set_self inside, Option.some.injEq] at at_raster
      rw [← at_raster, BoundedQueue.items_of_written written]
      exact List.suffix_append_self_iff.mpr queued
  | left status =>
      simp only [met_tiles, setTile, List.getElem?_set_self inside, Option.some.injEq] at at_raster
      rw [← at_raster]
      exact queued
  | _ =>
      simp only [setTile, drained, List.getElem?_set_self inside, Option.some.injEq] at at_raster
      rw [← at_raster]
      exact queued

theorem Reachable.queue_suffix (size : plan.manifest.videoSets.length = plan.manifest.tileCount)
    (reached : Reachable plan session) (found : session.tiles[raster]? = some tile) :
    tile.queue.items <:+ tile.history := by
  induction reached generalizing tile with
  | start created =>
      obtain ⟨video, tileIndex, _, _, rfl⟩ := (create_eq_ok created).2.2 raster tile found
      exact List.suffix_rfl
  | step action reached stepped ih =>
      obtain ⟨before, at_raster, change⟩ := (reached.rendezvous size).tileChange stepped found
      have queued := ih at_raster
      cases change with
      | kept _ => exact queued
      | worked _ _ change => exact change.queue_suffix at_raster queued found
      | started _ _ call => exact queued
      | polled queue consumer _ taken =>
          rcases taken with rfl | rfl
          · exact queued
          · exact List.IsSuffix.trans ⟨_, before.queue.take_items⟩ queued

end Session

end TiledStream
