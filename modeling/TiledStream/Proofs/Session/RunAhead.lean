import TiledStream.Proofs.Session.Separation

/-! How far a worker runs ahead of its consumer: it requests a segment before it decodes the one at
hand, its queue is bounded, and a full queue keeps it within the segment it is decoding. -/

namespace TiledStream

namespace BoundedQueue

variable {Item : Type} {queue after : BoundedQueue Item} {item : Item} {cancelled : Bool}

theorem isFull_of_written (attempted : queue.attempt item cancelled = .written after) :
    queue.isFull = false ∧ after.capacity = queue.capacity := by
  unfold attempt at attempted
  split at attempted
  · rename_i later wrote
    obtain rfl : later = after := Attempt.written.inj attempted
    unfold write? at wrote
    split at wrote
    · simp at wrote
    · rename_i room
      rw [← Option.some.inj wrote]
      refine ⟨by simpa using room, ?_⟩
      unfold append
      split <;> rfl
  · split at attempted <;> simp at attempted

def Within (queue : BoundedQueue Item) (capacity : Nat) : Prop :=
  queue.capacity = capacity ∧ queue.items.length ≤ capacity

theorem Within.written {capacity : Nat} (within : queue.Within capacity)
    (attempted : queue.attempt item cancelled = .written after) : after.Within capacity := by
  obtain ⟨room, same⟩ := isFull_of_written attempted
  refine ⟨same.trans within.1, ?_⟩
  rw [isFull, decide_eq_false_iff_not, within.1] at room
  rw [items_of_written attempted, List.length_append, List.length_singleton]
  omega

theorem Within.take {capacity : Nat} (within : queue.Within capacity) :
    queue.take.2.Within capacity := by
  have parts := congrArg List.length queue.take_items
  rw [List.length_append] at parts
  have bound := within.2
  refine ⟨?_, by omega⟩
  rw [← within.1]
  unfold BoundedQueue.take
  split <;> rfl

end BoundedQueue

namespace Stage

variable {engine : Engine}

def isOver : Stage engine → Bool
  | .ending _ | .marking _ _ | .draining _ | .exiting | .leaving | .gone => true
  | _ => false

/-- How many of the segments that a worker requested it may not have received. -/
def owed : Stage engine → Nat
  | .unstarted | .requesting _ => 0
  | _ => 1

theorem owed_le (stage : Stage engine) : stage.owed ≤ 1 := by
  cases stage <;> simp [owed]

theorem owed_of_isOver {stage : Stage engine} (past : stage.isOver = true) : stage.owed = 1 := by
  cases stage <;> first | rfl | exact nomatch past

def receives : (before after : Stage engine) → Nat
  | .waiting _, .requesting _ => 1
  | _, _ => 0

end Stage

namespace Plan

variable {plan : Plan} {raster : Nat} {video : VideoSet} {earlier : Nat} {events : List TileEvent}

theorem decodedAt_unique {buffers : Buffers} {few many : Nat} {frames others : List Frame}
    {ending end' : Except Failure Unit}
    (decoded : plan.decodedAt buffers few = (frames, some ending))
    (also : plan.decodedAt buffers many = (others, some end')) : frames = others := by
  have first := (plan.decodedAt_mono buffers (Nat.le_max_left few many)).2
  have second := (plan.decodedAt_mono buffers (Nat.le_max_right few many)).2
  rw [decoded] at first
  rw [also] at second
  exact congrArg Prod.fst ((first rfl).symm.trans (second rfl))

theorem Passed.unique {other : List TileEvent} (passed : plan.Passed raster video earlier events)
    (also : plan.Passed raster video earlier other) : events = other := by
  induction passed generalizing other with
  | start =>
      cases also with
      | start => rfl
  | segment _ segment decoded ih =>
      cases also with
      | segment before there again =>
          obtain rfl := Except.ok.inj (segment.symm.trans there)
          rw [ih before, decodedAt_unique decoded again]

theorem Passed.before (passed : plan.Passed raster video earlier events) {fewer : Nat}
    (le : fewer ≤ earlier) : ∃ part, plan.Passed raster video fewer part := by
  induction passed with
  | start =>
      obtain rfl : fewer = 0 := by omega
      exact ⟨_, .start⟩
  | @segment earlier rounds events buffers frames passed segment decoded ih =>
      rcases Nat.lt_or_eq_of_le le with less | rfl
      · exact ih (by omega)
      · exact ⟨_, .segment passed segment decoded⟩

/-- Every segment that is decoded to its end yields a frame. -/
def NoEmptySegment (plan : Plan) (raster : Nat) (video : VideoSet) : Prop :=
  ∀ earlier buffers rounds frames, plan.segmentAt raster video earlier = .ok buffers →
    plan.decodedAt buffers rounds = (frames, some (.ok ())) → frames ≠ []

theorem Passed.longer (full : plan.NoEmptySegment raster video) {fewer : Nat}
    {part : List TileEvent} (passed : plan.Passed raster video earlier events)
    (before : plan.Passed raster video fewer part) (less : fewer < earlier) :
    part.length < events.length := by
  induction passed with
  | start => omega
  | @segment earlier rounds events buffers frames passed segment decoded ih =>
      have some_frame :=
        List.length_pos_iff.mpr (full earlier buffers rounds frames segment decoded)
      have counted : (frameEvents buffers video.extent frames).length = frames.length :=
        List.length_mapIdx
      rw [List.length_append, counted]
      rcases Nat.lt_succ_iff_lt_or_eq.mp less with further | rfl
      · have shorter := ih further
        omega
      · rw [before.unique passed]
        omega

theorem Passed.le (full : plan.NoEmptySegment raster video) {queued : Nat} {part : List TileEvent}
    (passed : plan.Passed raster video earlier events)
    (other : plan.Passed raster video queued part) (within : part <+: events) :
    queued ≤ earlier := by
  rcases Nat.lt_or_ge earlier queued with beyond | le
  · have longer := other.longer full passed beyond
    have shorter := within.length_le
    omega
  · exact le

theorem Amid.le (full : plan.NoEmptySegment raster video) {buffers : Buffers}
    {frames following : List Frame} {source : FrameSource plan.engine} {queued : Nat}
    {part : List TileEvent}
    (amid : plan.Amid raster video earlier buffers events (frames ++ following) source)
    (other : plan.Passed raster video queued part)
    (within : part <+: events ++ frameEvents buffers video.extent frames) :
    queued ≤ earlier + 1 := by
  rcases Nat.lt_or_ge (earlier + 1) queued with beyond | le
  · obtain ⟨whole, passed⟩ := other.before (Nat.le_of_lt beyond)
    have longer := other.longer full passed beyond
    have shorter := within.length_le
    cases passed with
    | @segment _ rounds prior others all before segment decoded =>
        obtain rfl := before.unique amid.passed
        obtain rfl := Except.ok.inj (amid.segment.symm.trans segment)
        obtain ⟨few, yielded⟩ := amid.decoded
        have shown := (plan.decodedAt_mono buffers (Nat.le_max_left few rounds)).1
        have same := (plan.decodedAt_mono buffers (Nat.le_max_right few rounds)).2
        rw [decoded] at same
        rw [same rfl] at shown
        have count := (yielded.trans shown).length_le
        simp only [List.length_append, frameEvents, List.length_mapIdx] at longer shorter count
        omega
  · exact le

/-- All frames of the segments but the last two requested are queued. Of those the last one is not
among them. -/
def Paced (plan : Plan) (raster : Nat) (video : VideoSet) (streamer : Streamer)
    (history : List TileEvent) : Prop :=
  ∃ done events, plan.Passed raster video done events ∧ events <+: history ∧
    done ≤ streamer.segmentsRequested - 1 ∧ streamer.segmentsRequested ≤ done + 2

variable {streamer : Streamer} {history : List TileEvent}

theorem Asked.segmentsRequested {requests : Nat} (asked : plan.Asked video requests streamer) :
    streamer.segmentsRequested = requests := by
  rw [Streamer.segmentsRequested, asked.nextSegment, Nat.add_sub_cancel]

theorem Ahead.paced {request : SegmentRequest} {held : Option Buffers}
    (ahead : plan.Ahead raster video streamer history request held) :
    plan.Paced raster video streamer history := by
  cases held with
  | none =>
      obtain ⟨_, requested⟩ := ahead
      have count := requested.1.segmentsRequested
      exact ⟨0, [], .start, List.nil_prefix, by omega, by omega⟩
  | some buffers =>
      obtain ⟨earlier, passed, _, requested⟩ := ahead
      have count := requested.1.segmentsRequested
      exact ⟨earlier, history, passed, List.prefix_rfl, by omega, by omega⟩

theorem Decodes.paced {work : Decoding plan.engine} {queued : Nat} {following : List Frame}
    (decodes : plan.Decodes raster video streamer history work queued following) :
    plan.Paced raster video streamer history := by
  obtain ⟨earlier, events, frames, amid, requested, _, rfl⟩ := decodes
  have count := requested.1.segmentsRequested
  exact ⟨earlier, events, amid.passed, List.prefix_append _ _, by omega, by omega⟩

theorem Stands.paced {calm : Prop} {stage : Stage plan.engine}
    (stands : plan.Stands raster video calm streamer history stage)
    (running : stage.isOver = false) : plan.Paced raster video streamer history := by
  cases stage with
  | unstarted =>
      obtain ⟨_, asked⟩ := stands
      have count := asked.segmentsRequested
      exact ⟨0, [], .start, List.nil_prefix, by omega, by omega⟩
  | requesting held =>
      cases held with
      | none =>
          obtain ⟨_, asked⟩ := stands
          have count := asked.segmentsRequested
          exact ⟨0, [], .start, List.nil_prefix, by omega, by omega⟩
      | some buffers =>
          obtain ⟨earlier, passed, _, asked⟩ := stands
          have count := asked.segmentsRequested
          exact ⟨earlier, history, passed, List.prefix_rfl, by omega, by omega⟩
  | recording request held | publishing request held => exact Ahead.paced stands
  | waiting request =>
      obtain ⟨earlier, passed, requested⟩ := stands
      have count := requested.1.segmentsRequested
      exact ⟨earlier, history, passed, List.prefix_rfl, by omega, by omega⟩
  | opening following buffers =>
      have ahead : plan.Ahead raster video streamer history following (some buffers) := stands
      exact ahead.paced
  | decoding work | counting work | promoting work => exact Decodes.paced stands
  | writing work frame =>
      obtain ⟨raw, queued, _, _, decodes⟩ := stands
      exact decodes.paced
  | ending | marking | draining | exiting | leaving | gone => cases running

theorem Ahead.beyond (full : plan.NoEmptySegment raster video) {request : SegmentRequest}
    {held : Option Buffers} (ahead : plan.Ahead raster video streamer history request held)
    (nonempty : history ≠ []) {queued : Nat} {part : List TileEvent}
    (other : plan.Passed raster video queued part) (within : part <+: history) :
    queued < streamer.segmentsRequested := by
  cases held with
  | none => exact absurd ahead.1 nonempty
  | some buffers =>
      obtain ⟨earlier, passed, _, requested⟩ := ahead
      have le := passed.le full other within
      rw [requested.1.segmentsRequested]
      omega

theorem Decodes.beyond (full : plan.NoEmptySegment raster video) {work : Decoding plan.engine}
    {count : Nat} {following : List Frame}
    (decodes : plan.Decodes raster video streamer history work count following) {queued : Nat}
    {part : List TileEvent} (other : plan.Passed raster video queued part)
    (within : part <+: history) : queued < streamer.segmentsRequested := by
  obtain ⟨earlier, events, frames, amid, requested, _, rfl⟩ := decodes
  have le := amid.le full other within
  rw [requested.1.segmentsRequested]
  omega

theorem Stands.beyond {calm : Prop} {stage : Stage plan.engine}
    (full : plan.NoEmptySegment raster video)
    (stands : plan.Stands raster video calm streamer history stage)
    (running : stage.isOver = false) (nonempty : history ≠ []) {queued : Nat}
    {part : List TileEvent} (other : plan.Passed raster video queued part)
    (within : part <+: history) : queued < streamer.segmentsRequested := by
  cases stage with
  | unstarted => exact absurd stands.1 nonempty
  | requesting held =>
      cases held with
      | none => exact absurd stands.1 nonempty
      | some buffers =>
          obtain ⟨earlier, passed, _, asked⟩ := stands
          have le := passed.le full other within
          rw [asked.segmentsRequested]
          omega
  | recording request held | publishing request held =>
      exact Ahead.beyond full stands nonempty other within
  | waiting request =>
      obtain ⟨earlier, passed, requested⟩ := stands
      have le := passed.le full other within
      rw [requested.1.segmentsRequested]
      omega
  | opening following buffers =>
      have ahead : plan.Ahead raster video streamer history following (some buffers) := stands
      exact ahead.beyond full nonempty other within
  | decoding work | counting work | promoting work => exact Decodes.beyond full stands other within
  | writing work frame =>
      obtain ⟨raw, count, _, _, decodes⟩ := stands
      exact decodes.beyond full other within
  | ending | marking | draining | exiting | leaving | gone => cases running

end Plan

namespace Session

variable {plan : Plan} {session next : Session plan} {raster : Nat} {video : VideoSet}
  {tile after : TileState plan.engine}

/-- What a step does for the pace of a tile: its history grows, a full queue stays as it is unless
it is polled, a stream that has ended requests nothing, and no other requests a segment while two are
still to be received. -/
structure KeepsPace (raster : Nat) (action : Action) (tile after : TileState plan.engine) :
    Prop where
  history : tile.history <+: after.history
  refused : after.stage.isOver = true →
    after.streamer.segmentsRequested = tile.streamer.segmentsRequested
  past : tile.stage.isOver = true → after.stage.isOver = true
  full : action ≠ .consumer raster → tile.queue.isFull = true →
    after.queue = tile.queue ∧ after.history = tile.history
  within : ∀ capacity, tile.queue.Within capacity → after.queue.Within capacity
  receives : after.streamer.segmentsRequested + tile.stage.owed ≤
    tile.streamer.segmentsRequested + after.stage.owed + tile.stage.receives after.stage

variable {action : Action}

theorem keepsPace_of_stage {stage : Stage plan.engine} (streamer : Streamer)
    (stats : TileStats) (past : tile.stage.isOver = true → stage.isOver = true)
    (refused : stage.isOver = true →
      streamer.segmentsRequested = tile.streamer.segmentsRequested)
    (receives : streamer.segmentsRequested + tile.stage.owed ≤
      tile.streamer.segmentsRequested + stage.owed + tile.stage.receives stage) :
    KeepsPace raster action tile { tile with streamer, stage, stats } :=
  { history := List.prefix_rfl
    refused
    past
    full := fun _ _ => ⟨rfl, rfl⟩
    within := fun _ within => within
    receives }

theorem receives_of_owed (tile : TileState plan.engine) {stage : Stage plan.engine}
    (owed : stage.owed = 1) :
    tile.streamer.segmentsRequested + tile.stage.owed ≤
      tile.streamer.segmentsRequested + stage.owed + tile.stage.receives stage := by
  have le := tile.stage.owed_le
  omega

theorem keepsPace_of_written {event : TileEvent} {cancelled : Bool} {queue : BoundedQueue TileEvent}
    {stage : Stage plan.engine} (written : tile.queue.attempt event cancelled = .written queue)
    (past : tile.stage.isOver = true → stage.isOver = true) (owed : stage.owed = 1) :
    KeepsPace raster action tile { tile with queue, history := tile.history ++ [event], stage } :=
  { history := List.prefix_append _ _
    refused := fun _ => rfl
    past
    full := fun _ full => by
      rw [(BoundedQueue.isFull_of_written written).1] at full
      cases full
    within := fun _ within => within.written written
    receives := receives_of_owed tile owed }

theorem isOver_stageAfter (failure : Failure) :
    (stageAfter failure : Stage plan.engine).isOver = true := by
  cases failure <;> rfl

theorem isOver_stageAfterEnd (error : StreamError) :
    (stageAfterEnd error : Stage plan.engine).isOver = true := by
  unfold stageAfterEnd
  split
  · rfl
  · split <;> rfl

theorem isOver_stageAfterMark (fatal : Bool) :
    (stageAfterMark fatal : Stage plan.engine).isOver = true := by
  cases fatal <;> rfl

theorem WorkerChange.keepsPace (change : WorkerChange session raster tile next)
    (placed : plan.manifest.videoSet tile.streamer.tile = .ok video)
    (represented : video.representations ≠ []) :
    ∃ after, next.tiles = session.tiles.set raster after ∧
      KeepsPace raster action tile after := by
  -- A stage that ends no stream follows none that ended one, and one that ends it may follow any.
  have runs {stage before : Stage plan.engine} (status : tile.stage = before)
      (running : before.isOver = false) : tile.stage.isOver = true → stage.isOver = true := by
    intro past
    rw [status, running] at past
    cases past
  have goesOn {stage before : Stage plan.engine} (status : tile.stage = before)
      (running : before.isOver = false) (owed : stage.owed = 1) :
      KeepsPace raster action tile { tile with stage } :=
    keepsPace_of_stage tile.streamer tile.stats (runs status running) (fun _ => rfl)
      (receives_of_owed tile owed)
  have ends {stage : Stage plan.engine} (past : stage.isOver = true) :
      KeepsPace raster action tile { tile with stage } :=
    keepsPace_of_stage tile.streamer tile.stats (fun _ => past) (fun _ => rfl)
      (receives_of_owed tile (Stage.owed_of_isOver past))
  cases change with
  | requested held request streamer status made =>
      obtain ⟨first, following⟩ := Streamer.nextSegment_of_request made
      refine ⟨_, rfl, keepsPace_of_stage streamer tile.stats (runs status rfl) nofun ?_⟩
      simp only [status, Stage.owed, Streamer.segmentsRequested]
      omega
  | refused held failure streamer status made =>
      have answered := Streamer.request_answered placed represented made
      have same : streamer.segmentsRequested = tile.streamer.segmentsRequested := by
        rw [Streamer.segmentsRequested, answered.nextSegment_of_error]
        rfl
      refine ⟨_, rfl, keepsPace_of_stage streamer tile.stats (runs status rfl) (fun _ => same) ?_⟩
      rw [same]
      exact receives_of_owed tile (Stage.owed_of_isOver (isOver_stageAfter failure))
  | recorded request held status => exact ⟨_, rfl, goesOn status rfl rfl⟩
  | published request held status =>
      refine ⟨_, rfl, keepsPace_of_stage tile.streamer _ (runs status rfl) (fun _ => rfl)
        (receives_of_owed tile ?_)⟩
      cases held <;> rfl
  | received request buffers status answered =>
      refine ⟨_, rfl, keepsPace_of_stage tile.streamer tile.stats (runs status rfl) (fun _ => rfl) ?_⟩
      rw [status]
      exact Nat.le_refl _
  | missed request error status answered => exact ⟨_, rfl, ends rfl⟩
  | opened following buffers source status opened => exact ⟨_, rfl, goesOn status rfl rfl⟩
  | unopened following buffers failure status failed =>
      exact ⟨_, rfl, ends (isOver_stageAfter failure)⟩
  | picked work frame rest status batch => exact ⟨_, rfl, goesOn status rfl rfl⟩
  | decoded work batch source status taken more ran => exact ⟨_, rfl, goesOn status rfl rfl⟩
  | undecoded work failure source status taken more ran =>
      exact ⟨_, rfl, ends (isOver_stageAfter failure)⟩
  | finished work status taken flushed => exact ⟨_, rfl, goesOn status rfl rfl⟩
  | wrote work frame queue status written =>
      exact ⟨_, rfl, keepsPace_of_written written (runs status rfl) rfl⟩
  | abandoned work frame status given => exact ⟨_, rfl, ends rfl⟩
  | counted work status => exact ⟨_, rfl, goesOn status rfl rfl⟩
  | promoted work status => exact ⟨_, rfl, goesOn status rfl rfl⟩
  | ended error status => exact ⟨_, rfl, ends (isOver_stageAfterEnd error)⟩
  | marked event fatal queue status written =>
      have past : (stageAfterMark fatal : Stage plan.engine).isOver = true :=
        isOver_stageAfterMark fatal
      exact ⟨_, rfl, keepsPace_of_written written (fun _ => past) (Stage.owed_of_isOver past)⟩
  | unmarked event fatal status given => exact ⟨_, rfl, ends (isOver_stageAfterMark fatal)⟩
  | drains | drainsLast | exited => exact ⟨_, rfl, ends rfl⟩
  | left => exact ⟨_, met_tiles _ _, ends rfl⟩

theorem TileChange.keepsPace (change : TileChange session raster tile action next after)
    (meeting : Rendezvous session) (found : session.tiles[raster]? = some tile)
    (placed : plan.manifest.videoSet tile.streamer.tile = .ok video)
    (represented : video.representations ≠ []) : KeepsPace raster action tile after := by
  cases change with
  | kept _ =>
      exact keepsPace_of_stage tile.streamer tile.stats id (fun _ => rfl) (Nat.le_add_right _ _)
  | worked _ _ change tiles =>
      obtain ⟨other, same, kept⟩ : ∃ other, next.tiles = session.tiles.set raster other ∧
          KeepsPace raster action tile other := change.keepsPace placed represented
      obtain rfl := eq_of_set found tiles same
      exact kept
  | started _ _ call =>
      have idle := meeting.unstarted call found
      refine keepsPace_of_stage tile.streamer tile.stats ?_ nofun ?_ <;> rw [idle]
      · exact id
      · exact Nat.le_refl _
  | polled queue consumer consumed taken =>
      refine {
        history := List.prefix_rfl
        refused := fun _ => rfl
        past := id
        full := fun unpolled => absurd consumed unpolled
        within := ?_
        receives := Nat.le_add_right _ _ }
      intro capacity within
      rcases taken with rfl | rfl
      · exact within
      · exact within.take

theorem Reachable.keepsPace (placed : plan.manifest.Placed) (reached : Reachable plan session)
    (declared : plan.manifest.videoSets[raster]? = some video)
    (stepped : session.step action = some next) (found : next.tiles[raster]? = some after) :
    ∃ tile, session.tiles[raster]? = some tile ∧ KeepsPace raster action tile after := by
  have meeting := reached.rendezvous placed.size
  obtain ⟨tile, at_raster, change⟩ := meeting.tileChange stepped found
  have served := placed.videoSet_tile declared
  rw [← reached.serves placed declared at_raster] at served
  exact ⟨tile, at_raster, change.keepsPace meeting at_raster served
    (placed.represented video (List.mem_of_getElem? declared))⟩

theorem Reachable.paced (placed : plan.manifest.Placed) (reached : Reachable plan session)
    (declared : plan.manifest.videoSets[raster]? = some video)
    (found : session.tiles[raster]? = some tile) :
    plan.Paced raster video tile.streamer tile.history := by
  induction reached generalizing tile with
  | start created =>
      obtain ⟨_, _, _, _, rfl⟩ := (create_eq_ok created).2.2 raster tile found
      exact ⟨0, [], .start, List.nil_prefix, Nat.zero_le _, Nat.zero_le _⟩
  | step action reached stepped ih =>
      obtain ⟨before, at_raster, keeps⟩ := reached.keepsPace placed declared stepped found
      cases past : tile.stage.isOver with
      | false =>
          exact ((reached.step action stepped).follows placed declared found).stands.paced past
      | true =>
          -- An ended stream has requested as much as before, and its history only grows.
          obtain ⟨done, events, passed, within, bounds⟩ := ih at_raster
          refine ⟨done, events, passed, within.trans keeps.history, ?_⟩
          rw [keeps.refused past]
          exact bounds

theorem Reachable.within (placed : plan.manifest.Placed) (reached : Reachable plan session)
    (declared : plan.manifest.videoSets[raster]? = some video)
    (found : session.tiles[raster]? = some tile) :
    tile.queue.Within BoundedQueue.eventCapacity := by
  induction reached generalizing tile with
  | start created =>
      obtain ⟨_, _, _, _, rfl⟩ := (create_eq_ok created).2.2 raster tile found
      exact ⟨rfl, Nat.zero_le _⟩
  | step action reached stepped ih =>
      obtain ⟨before, at_raster, keeps⟩ := reached.keepsPace placed declared stepped found
      exact keeps.within _ (ih at_raster)

/-- How many segments the worker of a tile has received in a run. -/
inductive Receives (plan : Plan) (raster : Nat) : Nat → Session plan → Prop where
  | start {session : Session plan} : create plan = .ok session → Receives plan raster 0 session
  | step {received : Nat} {session next : Session plan} {tile after : TileState plan.engine}
      (action : Action) : Receives plan raster received session →
      session.step action = some next → session.tiles[raster]? = some tile →
      next.tiles[raster]? = some after →
      Receives plan raster (received + tile.stage.receives after.stage) next

theorem Receives.reachable {received : Nat} (receives : Receives plan raster received session) :
    Reachable plan session := by
  induction receives with
  | start created => exact .start created
  | step action _ stepped _ _ ih => exact ih.step action stepped

theorem Reachable.receives (placed : plan.manifest.Placed) (reached : Reachable plan session)
    (found : session.tiles[raster]? = some tile) :
    ∃ received, Receives plan raster received session := by
  induction reached generalizing tile with
  | start created => exact ⟨0, .start created⟩
  | step action reached stepped ih =>
      obtain ⟨before, at_raster, _⟩ := (reached.rendezvous placed.size).tileChange stepped found
      obtain ⟨received, receives⟩ := ih at_raster
      exact ⟨_, receives.step action stepped at_raster found⟩

/-- A worker receives a segment before it requests another but one. -/
theorem Receives.requested {received : Nat} (placed : plan.manifest.Placed)
    (declared : plan.manifest.videoSets[raster]? = some video)
    (receives : Receives plan raster received session)
    (found : session.tiles[raster]? = some tile) :
    tile.streamer.segmentsRequested ≤ received + tile.stage.owed := by
  induction receives generalizing tile with
  | start created =>
      obtain ⟨_, _, _, _, rfl⟩ := (create_eq_ok created).2.2 raster tile found
      exact Nat.zero_le _
  | step action receives stepped at_raster later ih =>
      obtain rfl := Option.some.inj (later.symm.trans found)
      obtain ⟨before, same, keeps⟩ := receives.reachable.keepsPace placed declared stepped found
      obtain rfl := Option.some.inj (at_raster.symm.trans same)
      have known := ih at_raster
      have pace := keeps.receives
      omega

inductive Unpolled (raster : Nat) (session : Session plan) : Session plan → Prop where
  | refl : Unpolled raster session session
  | step {between next : Session plan} (action : Action) :
      Unpolled raster session between → between.step action = some next →
      action ≠ .consumer raster → Unpolled raster session next

theorem Unpolled.reachable (reached : Reachable plan session)
    (unpolled : Unpolled raster session next) : Reachable plan next := by
  induction unpolled with
  | refl => exact reached
  | step action _ stepped _ ih => exact ih.step action stepped

/-- A full queue that nobody polls keeps all of its events and the history of its tile, and a
stream that has ended stays so. -/
theorem Unpolled.keeps (placed : plan.manifest.Placed) (reached : Reachable plan session)
    (declared : plan.manifest.videoSets[raster]? = some video)
    (found : session.tiles[raster]? = some tile) (full : tile.queue.isFull = true)
    (unpolled : Unpolled raster session next) (later : next.tiles[raster]? = some after) :
    after.queue = tile.queue ∧ after.history = tile.history ∧
      (tile.stage.isOver = true → after.stage.isOver = true ∧
        after.streamer.segmentsRequested = tile.streamer.segmentsRequested) := by
  induction unpolled generalizing after with
  | refl =>
      obtain rfl := Option.some.inj (found.symm.trans later)
      exact ⟨rfl, rfl, fun past => ⟨past, rfl⟩⟩
  | step action unpolled stepped other ih =>
      obtain ⟨before, at_raster, keeps⟩ :=
        (unpolled.reachable reached).keepsPace placed declared stepped later
      obtain ⟨queue, history, ended⟩ := ih at_raster
      obtain ⟨same_queue, same_history⟩ := keeps.full other (queue ▸ full)
      refine ⟨same_queue.trans queue, same_history.trans history, ?_⟩
      intro past
      obtain ⟨still, count⟩ := ended past
      have stays := keeps.past still
      exact ⟨stays, (keeps.refused stays).trans count⟩

/-- A worker never has more than two segments requested beyond those it has received and queued in full,
and its queue never holds more than its capacity. While a full queue is not polled, at most one further
segment is requested, if every segment that is decoded to its end yields a frame. -/
theorem run_ahead_bounded {document : String}
    (parsed : Manifest.parse document = .ok plan.manifest)
    (declared : plan.manifest.videoSets[raster]? = some video)
    (reached : Reachable plan session) (found : session.tiles[raster]? = some tile) :
    (∃ received, Receives plan raster received session) ∧
    (∃ done events, plan.Passed raster video done events ∧ events <+: tile.history ∧
      (∀ received, Receives plan raster received session → done ≤ received) ∧
      tile.streamer.segmentsRequested ≤ done + 2) ∧
    tile.queue.capacity = BoundedQueue.eventCapacity ∧
    tile.queue.items.length ≤ tile.queue.capacity ∧
    (plan.NoEmptySegment raster video → tile.queue.isFull = true →
      ∀ later after, Unpolled raster session later → later.tiles[raster]? = some after →
        after.streamer.segmentsRequested ≤ tile.streamer.segmentsRequested + 1) := by
  have placed := Manifest.parse_placed parsed
  obtain ⟨capacity, length⟩ := reached.within placed declared found
  obtain ⟨done, events, passed, queued, behind, ahead⟩ := reached.paced placed declared found
  have known (received : Nat) (receives : Receives plan raster received session) :
      done ≤ received := by
    have requested := receives.requested placed declared found
    have owed := tile.stage.owed_le
    omega
  refine ⟨reached.receives placed found, ⟨done, events, passed, queued, known, ahead⟩, capacity,
    capacity ▸ length, ?_⟩
  intro nonempty full later after unpolled at_later
  obtain ⟨_, history, ended⟩ := unpolled.keeps placed reached declared found full at_later
  cases past : tile.stage.isOver with
  | true =>
      have same := (ended past).2
      omega
  | false =>
      have queued : tile.history ≠ [] := by
        intro none
        have suffix := reached.queue_suffix placed.size found
        rw [none, List.suffix_nil] at suffix
        rw [BoundedQueue.isFull, capacity, suffix] at full
        revert full
        decide
      obtain ⟨done, events, passed, within, _, bound⟩ :=
        (unpolled.reachable reached).paced placed declared at_later
      rw [history] at within
      have stands := (reached.follows placed declared found).stands
      have beyond := stands.beyond nonempty past queued passed within
      omega

section Flood

def floodPlan : Plan :=
  { soloPlan with
    engine := {
      State := Bool
      openSegment := fun _ _ => .ok false
      send := fun _ => (.ok (List.replicate BoundedQueue.eventCapacity (.unnumbered 0 0 [1])), true)
      isFlushed := id }
    answer := fun _ place _ => if place ≤ 2 then .ok [1] else .error (.badRequest "not found") }

theorem flood_noEmptySegment (video : VideoSet) : floodPlan.NoEmptySegment 0 video := by
  intro earlier buffers rounds frames _ decoded
  have opened : FrameSource.ofSegment floodPlan.engine buffers.initial buffers.media
      floodPlan.concurrency = .ok { decoder := false, pending := [], rounds := 0 } := rfl
  rw [Plan.decodedAt, opened] at decoded
  dsimp only at decoded
  cases rounds with
  | zero => simp [FrameSource.play] at decoded
  | succ rounds =>
      rw [FrameSource.play_succ_of_batch rfl rfl] at decoded
      have count := congrArg List.length (Prod.mk.inj decoded).1
      rw [List.length_append, List.length_replicate] at count
      rintro rfl
      have positive : 0 < BoundedQueue.eventCapacity := by decide
      rw [List.length_nil] at count
      omega

theorem Unpolled.run {actions : List Action}
    (ran : runWhile (fun _ _ action => action != .consumer raster) actions session = some next) :
    Unpolled raster session next :=
  runWhile_keeps .refl ran fun _ _ action unpolled stepped allowed =>
    unpolled.step action stepped (bne_iff_ne.mp allowed)

theorem flood_run_ahead_bounded :
    ∃ (document : String) (video : VideoSet) (session later : Session floodPlan)
      (tile after : TileState floodPlan.engine),
      Manifest.parse document = .ok floodPlan.manifest ∧
      floodPlan.manifest.videoSets[0]? = some video ∧ Reachable floodPlan session ∧
      session.tiles[0]? = some tile ∧ floodPlan.NoEmptySegment 0 video ∧
      tile.queue.isFull = true ∧ Unpolled 0 session later ∧ later.tiles[0]? = some after ∧
      tile.streamer.segmentsRequested = 2 ∧ after.streamer.segmentsRequested = 3 ∧
      tile.queue.items.length ≤ 180 ∧
      after.streamer.segmentsRequested ≤ tile.streamer.segmentsRequested + 1 := by
  obtain ⟨document, _, parsed⟩ := Presentation.parse_document solo_fits
  have ofPlan : Manifest.parse document = .ok floodPlan.manifest := parsed
  obtain ⟨video, declared⟩ : ∃ video, floodPlan.manifest.videoSets[0]? = some video := ⟨_, rfl⟩
  have ran : ((create floodPlan).toOption.bind fun start =>
      (start.run ([.prefetch, .owner true, .owner true] ++
        List.replicate 727 (.worker 0))).bind fun session =>
      (runWhile (fun _ _ action => action != .consumer 0) (List.replicate 5 (.worker 0))
        session).bind fun later =>
      session.tiles[0]?.bind fun tile => later.tiles[0]?.map fun after =>
        (tile.queue.isFull, tile.streamer.segmentsRequested,
          after.streamer.segmentsRequested)) = some (true, 2, 3) := by
    decide +kernel
  obtain ⟨start, began, ran⟩ := Option.bind_eq_some_iff.mp ran
  have created : create floodPlan = .ok start := by
    cases started : create floodPlan with
    | error fault =>
        rw [started] at began
        cases began
    | ok other =>
        rw [started] at began
        rw [Option.some.inj began]
  obtain ⟨session, filled, ran⟩ := Option.bind_eq_some_iff.mp ran
  obtain ⟨later, went, ran⟩ := Option.bind_eq_some_iff.mp ran
  obtain ⟨tile, found, ran⟩ := Option.bind_eq_some_iff.mp ran
  obtain ⟨after, at_later, ran⟩ := Option.map_eq_some_iff.mp ran
  obtain ⟨full, count, more⟩ : tile.queue.isFull = true ∧ tile.streamer.segmentsRequested = 2 ∧
      after.streamer.segmentsRequested = 3 := by
    simpa using ran
  have reached := (Reachable.start created).run filled
  have unpolled : Unpolled 0 session later := .run went
  have nonempty := flood_noEmptySegment video
  obtain ⟨_, _, capacity, bounded, ahead⟩ := run_ahead_bounded ofPlan declared reached found
  rw [capacity] at bounded
  exact ⟨document, video, session, later, tile, after, ofPlan, declared, reached, found, nonempty,
    full, unpolled, at_later, count, more, bounded,
    ahead nonempty full later after unpolled at_later⟩

end Flood

end Session

end TiledStream
