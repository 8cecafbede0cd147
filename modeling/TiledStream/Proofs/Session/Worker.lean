import TiledStream.Proofs.Session.Following
import TiledStream.Proofs.Session.TileChange

/-! Where a worker stands in the stream of its tile, stage by stage, and that every step of it keeps
to the stream. -/

namespace TiledStream

namespace Plan

variable (plan : Plan) (raster : Nat) (video : VideoSet)

def Requested (earlier : Nat) (streamer : Streamer) (request : SegmentRequest) : Prop :=
  plan.Asked video (earlier + 1) streamer ∧
    ∃ wanted, plan.wanted video earlier = .ok wanted ∧
      request = plan.requestAt video wanted earlier

def Ahead (streamer : Streamer) (history : List TileEvent) (request : SegmentRequest) :
    Option Buffers → Prop
  | none => history = [] ∧ plan.Requested video 0 streamer request
  | some buffers =>
    ∃ earlier, plan.Passed raster video earlier history ∧
      plan.segmentAt raster video earlier = .ok buffers ∧
      plan.Requested video (earlier + 1) streamer request

/-- A worker amid a segment has queued the events of some frames, and others follow them. -/
def Decodes (streamer : Streamer) (history : List TileEvent) (work : Decoding plan.engine)
    (queued : Nat) (following : List Frame) : Prop :=
  ∃ earlier events frames,
    plan.Amid raster video earlier work.buffers events (frames ++ following) work.source ∧
    plan.Requested video (earlier + 1) streamer work.following ∧
    frames.length = queued ∧
    history = events ++ frameEvents work.buffers video.extent frames

/-- Where a worker stands. It is calm if no one stopped it. -/
def Stands (calm : Prop) (streamer : Streamer) (history : List TileEvent) :
    Stage plan.engine → Prop
  | .unstarted | .requesting none => history = [] ∧ plan.Asked video 0 streamer
  | .requesting (some buffers) =>
    ∃ earlier, plan.Passed raster video earlier history ∧
      plan.segmentAt raster video earlier = .ok buffers ∧ plan.Asked video (earlier + 1) streamer
  | .recording request held | .publishing request held =>
    plan.Ahead raster video streamer history request held
  | .waiting request =>
    ∃ earlier, plan.Passed raster video earlier history ∧
      plan.Requested video earlier streamer request
  | .opening following buffers =>
    plan.Ahead raster video streamer history following (some buffers)
  | .decoding work | .counting work | .promoting work =>
    plan.Decodes raster video streamer history work work.index work.batch
  | .writing work frame =>
    ∃ raw queued, work.index = queued + 1 ∧
      frame = taggedFrame work.buffers video.extent queued raw ∧
      plan.Decodes raster video streamer history work queued (raw :: work.batch)
  | .ending error =>
    plan.Meets raster video history (.error error) ∨
      (¬calm ∧ error = .aborted ∧ plan.Begins raster video history)
  | .marking event _ => plan.Ends raster video (history ++ [event])
  | .draining _ | .exiting | .leaving | .gone =>
    plan.Ends raster video history ∨ (¬calm ∧ plan.Begins raster video history)

structure Follows (calm : Prop) (state : TileState plan.engine) : Prop where
  tile : state.tile = video.tile
  extent : state.extent = video.extent
  stands : plan.Stands raster video calm state.streamer state.history state.stage

variable {plan : Plan} {raster : Nat} {video : VideoSet} {calm : Prop} {streamer : Streamer}
  {history : List TileEvent}

theorem Asked.requested {requests : Nat} {after : Streamer} {cancelled : Bool}
    {request : SegmentRequest} (asked : plan.Asked video requests streamer)
    (placed : plan.manifest.videoSet video.tile = .ok video)
    (made : streamer.request plan.manifest plan.manifestUrl plan.choose cancelled =
      (.ok request, after)) :
    plan.Requested video requests after request :=
  asked.request placed made

theorem frameEvents_concat (buffers : Buffers) (extent : Extent) (frames : List Frame)
    (raw : Frame) :
    frameEvents buffers extent (frames ++ [raw]) =
      frameEvents buffers extent frames ++
        [.frame (taggedFrame buffers extent frames.length raw)] := by
  simp [frameEvents, List.mapIdx_append]

theorem Decodes.begins {work : Decoding plan.engine} {queued : Nat} {following : List Frame}
    (decodes : plan.Decodes raster video streamer history work queued following) :
    plan.Begins raster video history := by
  obtain ⟨earlier, events, frames, amid, _, _, rfl⟩ := decodes
  apply amid.begins.shorter
  exact (List.prefix_append_right_inj events).mpr (frameEvents_append _ _ _ _)

theorem Ahead.begins {request : SegmentRequest} {held : Option Buffers}
    (ahead : plan.Ahead raster video streamer history request held) :
    plan.Begins raster video history := by
  cases held with
  | none =>
      obtain ⟨rfl, _⟩ := ahead
      exact Passed.start.begins
  | some buffers =>
      obtain ⟨earlier, passed, _⟩ := ahead
      exact passed.begins

theorem Meets.begins {failure : Failure} (meets : plan.Meets raster video history failure) :
    plan.Begins raster video history :=
  meets.ends.begins.shorter (List.prefix_append _ _)

theorem Stands.begins {stage : Stage plan.engine}
    (stands : plan.Stands raster video calm streamer history stage) :
    plan.Begins raster video history := by
  cases stage with
  | unstarted =>
      obtain ⟨rfl, _⟩ := stands
      exact Passed.start.begins
  | requesting held =>
      cases held with
      | none =>
          obtain ⟨rfl, _⟩ := stands
          exact Passed.start.begins
      | some buffers =>
          obtain ⟨earlier, passed, _⟩ := stands
          exact passed.begins
  | recording request held | publishing request held => exact Ahead.begins stands
  | waiting request =>
      obtain ⟨earlier, passed, _⟩ := stands
      exact passed.begins
  | opening following buffers =>
      have ahead : plan.Ahead raster video streamer history following (some buffers) := stands
      exact ahead.begins
  | decoding work | counting work | promoting work => exact Decodes.begins stands
  | writing work frame =>
      obtain ⟨raw, queued, _, _, decodes⟩ := stands
      exact decodes.begins
  | ending error =>
      rcases stands with meets | ⟨_, _, begins⟩
      · exact meets.begins
      · exact begins
  | marking event fatal => exact (Ends.begins stands).shorter (List.prefix_append _ _)
  | draining drain =>
      rcases stands with ends | ⟨_, begins⟩
      · exact ends.begins
      · exact begins
  | exiting | leaving | gone =>
      rcases stands with ends | ⟨_, begins⟩
      · exact ends.begins
      · exact begins

theorem Meets.stands_stageAfter {failure : Failure}
    (meets : plan.Meets raster video history failure)
    (calmly : calm → (Session.stageAfter failure : Stage plan.engine) ≠ .exiting) :
    plan.Stands raster video calm streamer history (Session.stageAfter failure) := by
  cases failure with
  | error error => exact .inl meets
  | fault fault => exact .inr ⟨fun still => calmly still rfl, meets.begins⟩

theorem Meets.stands_stageAfterEnd {error : StreamError}
    (meets : plan.Meets raster video history (.error error)) :
    plan.Stands raster video calm streamer history (Session.stageAfterEnd error) := by
  have ends := meets.ends
  unfold endMarker at ends
  unfold Session.stageAfterEnd
  by_cases aborted : error = .aborted
  · rw [if_pos aborted]
    simp only [aborted, ↓reduceIte, List.append_nil] at ends
    exact .inl ends
  · simp only [aborted, ↓reduceIte] at ends ⊢
    by_cases finished : error.isEndOfStream = true
    · simp only [finished, ↓reduceIte] at ends ⊢
      exact ends
    · simp only [finished, Bool.false_eq_true, ↓reduceIte] at ends ⊢
      exact ends

theorem stands_stageAfterMark {fatal : Bool}
    (ends : plan.Ends raster video history ∨ (¬calm ∧ plan.Begins raster video history)) :
    plan.Stands raster video calm streamer history (Session.stageAfterMark fatal) := by
  cases fatal with
  | true => exact ends
  | false => exact ends

end Plan

namespace Stage

variable {engine : Engine}

def isStopping : Stage engine → Bool
  | .draining _ | .exiting | .leaving | .gone => true
  | _ => false

def unwinds : (before after : Stage engine) → Bool
  | .requesting _, .exiting | .opening _ _, .exiting | .decoding _, .exiting => true
  | _, _ => false

theorem ne_exiting {before after : Stage engine} (faulty : before.unwinds .exiting = true)
    (calmly : before.unwinds after = false) : after ≠ .exiting := by
  rintro rfl
  rw [faulty] at calmly
  exact Bool.noConfusion calmly

end Stage

namespace Session

variable {plan : Plan} {session next : Session plan} {raster : Nat} {video : VideoSet}
  {calm : Prop} {tile after : TileState plan.engine}

theorem follows_requested {held : Option Buffers} {request : SegmentRequest}
    {streamer : Streamer} (placed : plan.manifest.videoSet video.tile = .ok video)
    (stands : plan.Stands raster video calm tile.streamer tile.history (.requesting held))
    (made : tile.streamer.request plan.manifest plan.manifestUrl plan.choose session.cancelled =
      (.ok request, streamer)) :
    plan.Ahead raster video streamer tile.history request held := by
  cases held with
  | none =>
      obtain ⟨first, asked⟩ := stands
      exact ⟨first, asked.requested placed made⟩
  | some buffers =>
      obtain ⟨earlier, passed, segment, asked⟩ := stands
      exact ⟨earlier, passed, segment, asked.requested placed made⟩

theorem follows_refused {held : Option Buffers} {failure : Failure} {streamer : Streamer}
    (placed : plan.manifest.videoSet video.tile = .ok video)
    (stands : plan.Stands raster video calm tile.streamer tile.history (.requesting held))
    (made : tile.streamer.request plan.manifest plan.manifestUrl plan.choose session.cancelled =
      (.error failure, streamer))
    (token : calm → session.cancelled = false)
    (calmly : calm → (stageAfter failure : Stage plan.engine) ≠ .exiting) :
    plan.Stands raster video calm streamer tile.history (stageAfter failure) := by
  have begins := stands.begins
  have refused : (session.cancelled = true ∧ failure = .error .aborted) ∨
      ∃ fault, failure = .fault fault := by
    cases held with
    | none =>
        obtain ⟨_, asked⟩ := stands
        rcases asked.refused placed made with stopped | ⟨fault, same, _⟩
        · exact .inl stopped
        · exact .inr ⟨fault, same⟩
    | some buffers =>
        obtain ⟨_, _, _, asked⟩ := stands
        rcases asked.refused placed made with stopped | ⟨fault, same, _⟩
        · exact .inl stopped
        · exact .inr ⟨fault, same⟩
  rcases refused with ⟨stopped, rfl⟩ | ⟨fault, rfl⟩
  · refine .inr ⟨fun still => ?_, rfl, begins⟩
    rw [token still] at stopped
    exact Bool.noConfusion stopped
  · exact .inr ⟨fun still => calmly still rfl, begins⟩

theorem follows_finished {work : Decoding plan.engine}
    (stands : plan.Stands raster video calm tile.streamer tile.history (.decoding work))
    (taken : work.batch = []) (flushed : work.source.hasMore = false) :
    plan.Stands raster video calm tile.streamer tile.history (.waiting work.following) := by
  obtain ⟨earlier, events, frames, amid, requested, _, same⟩ := stands
  rw [taken, List.append_nil] at amid
  -- The rounds that yielded the frames, and one more that finds the decoder flushed.
  obtain ⟨first, opened, yields⟩ := amid.opened
  obtain ⟨rounds, played⟩ := yields.play
  have decoded : plan.decodedAt work.buffers (rounds + 1) = (frames, some (.ok ())) := by
    rw [Plan.decodedAt, opened]
    simp only
    rw [played 1]
    simp [FrameSource.play, flushed]
  rw [same]
  exact ⟨earlier + 1, .segment amid.passed amid.segment decoded, requested⟩

theorem WorkerChange.follows (change : WorkerChange session raster tile next)
    (placed : plan.manifest.videoSet video.tile = .ok video)
    (follows : plan.Follows raster video calm tile)
    (token : calm → tile.stage.isStopping = false → session.cancelled = false) :
    ∃ after, next.tiles = session.tiles.set raster after ∧
      ((calm → tile.stage.unwinds after.stage = false) →
        plan.Follows raster video calm after) := by
  obtain ⟨place, extent, stands⟩ := follows
  have stopped (status : tile.stage.isStopping = false) (cancelled : session.cancelled = true) :
      ¬calm := by
    intro still
    rw [token still status] at cancelled
    exact Bool.noConfusion cancelled
  cases change with
  | requested held request streamer status made =>
      rw [status] at stands
      have ahead := follows_requested placed stands made
      exact ⟨_, rfl, fun _ => ⟨place, extent, ahead⟩⟩
  | refused held failure streamer status made =>
      rw [status] at stands token
      have kept := follows_refused placed stands made fun still => token still rfl
      refine ⟨_, rfl, fun calmly => ⟨place, extent, kept fun still => ?_⟩⟩
      exact Stage.ne_exiting (by rw [status]; rfl) (calmly still)
  | recorded request held status =>
      rw [status] at stands
      exact ⟨_, rfl, fun _ => ⟨place, extent, stands⟩⟩
  | published request held status =>
      rw [status] at stands
      refine ⟨_, rfl, fun _ => ⟨place, extent, ?_⟩⟩
      cases held with
      | none =>
          obtain ⟨first, requested⟩ := stands
          simp only [first]
          exact ⟨0, .start, requested⟩
      | some buffers => exact stands
  | received request buffers status answered =>
      rw [status] at stands
      obtain ⟨earlier, passed, asked, wanted, granted, rfl⟩ := stands
      refine ⟨_, rfl, fun _ => ⟨place, extent, ?_⟩⟩
      exact ⟨earlier, passed, asked.await_ok (Nat.lt_succ_self _) granted answered, asked⟩
  | missed request error status answered =>
      have begins := stands.begins
      rw [status] at stands
      obtain ⟨earlier, passed, asked, wanted, granted, rfl⟩ := stands
      refine ⟨_, rfl, fun _ => ⟨place, extent, ?_⟩⟩
      rcases asked.await_error (Nat.lt_succ_self _) granted answered with
        ⟨cancelled, aborted⟩ | failed
      · exact .inr ⟨stopped (by rw [status]; rfl) cancelled, aborted, begins⟩
      · exact .inl (.segment passed failed)
  | opened following buffers source status opened =>
      rw [status] at stands
      obtain ⟨earlier, passed, segment, requested⟩ := stands
      refine ⟨_, rfl, fun _ => ⟨place, extent, ?_⟩⟩
      refine ⟨earlier, tile.history, [], ⟨passed, segment, source, opened, .start⟩, requested,
        rfl, ?_⟩
      simp [frameEvents]
  | unopened following buffers failure status failed =>
      rw [status] at stands
      obtain ⟨earlier, passed, segment, requested⟩ := stands
      refine ⟨_, rfl, fun calmly => ⟨place, extent, ?_⟩⟩
      have meets : plan.Meets raster video tile.history failure := .opening passed segment failed
      apply meets.stands_stageAfter
      exact fun still => Stage.ne_exiting (by rw [status]; rfl) (calmly still)
  | picked work frame rest status batch =>
      rw [status] at stands
      refine ⟨_, rfl, fun _ => ⟨place, extent, frame, work.index, rfl, ?_, ?_⟩⟩
      · simp [Decoding.tagged, taggedFrame, extent]
      · have decodes : plan.Decodes raster video tile.streamer tile.history work work.index
            work.batch := stands
        rw [batch] at decodes
        exact decodes
  | decoded work batch source status taken more ran =>
      rw [status] at stands
      obtain ⟨earlier, events, frames, amid, requested, count, same⟩ := stands
      refine ⟨_, rfl, fun _ => ⟨place, extent, ?_⟩⟩
      rw [taken, List.append_nil] at amid
      obtain ⟨first, opened, yields⟩ := amid.opened
      exact ⟨earlier, events, frames,
        ⟨amid.passed, amid.segment, first, opened, yields.round more ran⟩, requested, count, same⟩
  | undecoded work failure source status taken more ran =>
      rw [status] at stands
      obtain ⟨earlier, events, frames, amid, requested, count, same⟩ := stands
      refine ⟨_, rfl, fun calmly => ⟨place, extent, ?_⟩⟩
      rw [taken, List.append_nil] at amid
      have meets : plan.Meets raster video tile.history failure := .decoding amid more ran same
      apply meets.stands_stageAfter
      exact fun still => Stage.ne_exiting (by rw [status]; rfl) (calmly still)
  | finished work status taken flushed =>
      rw [status] at stands
      exact ⟨_, rfl, fun _ => ⟨place, extent, follows_finished stands taken flushed⟩⟩
  | wrote work frame queue status written =>
      rw [status] at stands
      obtain ⟨raw, queued, index, rfl, earlier, events, frames, amid, requested, count, same⟩ :=
        stands
      refine ⟨_, rfl, fun _ => ⟨place, extent, earlier, events, frames ++ [raw], ?_, requested, ?_,
        ?_⟩⟩
      · rw [List.append_assoc]
        exact amid
      · simp [index, count]
      · simp [Plan.frameEvents_concat, same, count]
  | abandoned work frame status given =>
      have begins := stands.begins
      refine ⟨_, rfl, fun _ => ⟨place, extent, .inr ⟨stopped (by rw [status]; rfl) ?_, rfl, begins⟩⟩⟩
      exact BoundedQueue.cancelled_of_abandoned given
  | counted work status =>
      rw [status] at stands
      exact ⟨_, rfl, fun _ => ⟨place, extent, stands⟩⟩
  | promoted work status =>
      rw [status] at stands
      exact ⟨_, rfl, fun _ => ⟨place, extent, stands⟩⟩
  | ended error status =>
      rw [status] at stands
      refine ⟨_, rfl, fun _ => ⟨place, extent, ?_⟩⟩
      rcases stands with meets | ⟨disturbed, rfl, begins⟩
      · exact meets.stands_stageAfterEnd
      · exact .inr ⟨disturbed, begins⟩
  | marked event fatal queue status written =>
      rw [status] at stands
      exact ⟨_, rfl, fun _ => ⟨place, extent, Plan.stands_stageAfterMark (.inl stands)⟩⟩
  | unmarked event fatal status given =>
      have begins := stands.begins
      have cancelled := BoundedQueue.cancelled_of_abandoned given
      exact ⟨_, rfl, fun _ => ⟨place, extent, Plan.stands_stageAfterMark
        (.inr ⟨stopped (by rw [status]; rfl) cancelled, begins⟩)⟩⟩
  | drains drain following status _ =>
      rw [status] at stands
      exact ⟨_, rfl, fun _ => ⟨place, extent, stands⟩⟩
  | drainsLast drain status _ =>
      rw [status] at stands
      exact ⟨_, rfl, fun _ => ⟨place, extent, stands⟩⟩
  | exited status =>
      rw [status] at stands
      exact ⟨_, rfl, fun _ => ⟨place, extent, stands⟩⟩
  | left status =>
      rw [status] at stands
      exact ⟨_, met_tiles _ _, fun _ => ⟨place, extent, stands⟩⟩

end Session

end TiledStream
