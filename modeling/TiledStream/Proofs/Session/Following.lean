import TiledStream.Proofs.Session.Change
import TiledStream.Proofs.Session.Fetching

/-! A worker follows the stream of its tile: wherever it stands, what it has queued is the beginning
of the stream, and what it has at hand continues it. -/

namespace TiledStream

namespace FrameSource

variable {engine : Engine}

inductive Yields (source : FrameSource engine) : List Frame → FrameSource engine → Prop where
  | start : Yields source [] source
  | round {frames batch : List Frame} {between after : FrameSource engine} :
      Yields source frames between → between.hasMore = true → between.round = (.ok batch, after) →
      Yields source (frames ++ batch) after

theorem Yields.play {source after : FrameSource engine} {frames : List Frame}
    (yields : source.Yields frames after) :
    ∃ rounds, ∀ more, source.play (rounds + more) =
      (frames ++ (after.play more).1, (after.play more).2) := by
  induction yields with
  | start => exact ⟨0, fun more => by simp⟩
  | round _ more ran ih =>
      obtain ⟨rounds, played⟩ := ih
      refine ⟨rounds + 1, ?_⟩
      intro further
      rw [show rounds + 1 + further = rounds + (further + 1) by omega, played,
        play_succ_of_batch more ran]
      simp

end FrameSource

namespace Plan

variable (plan : Plan) (raster : Nat) (video : VideoSet)

inductive Passed : (earlier : Nat) → List TileEvent → Prop where
  | start : Passed 0 []
  | segment {earlier rounds : Nat} {events : List TileEvent} {buffers : Buffers}
      {frames : List Frame} :
      Passed earlier events → plan.segmentAt raster video earlier = .ok buffers →
      plan.decodedAt buffers rounds = (frames, some (.ok ())) →
      Passed (earlier + 1) (events ++ frameEvents buffers video.extent frames)

structure Amid (earlier : Nat) (buffers : Buffers) (events : List TileEvent)
    (frames : List Frame) (source : FrameSource plan.engine) : Prop where
  passed : plan.Passed raster video earlier events
  segment : plan.segmentAt raster video earlier = .ok buffers
  opened : ∃ first, FrameSource.ofSegment plan.engine buffers.initial buffers.media
    plan.concurrency = .ok first ∧ first.Yields frames source

inductive Meets (history : List TileEvent) (failure : Failure) : Prop where
  | segment {earlier : Nat} :
      plan.Passed raster video earlier history →
      plan.segmentAt raster video earlier = .error failure → Meets history failure
  | opening {earlier : Nat} {buffers : Buffers} :
      plan.Passed raster video earlier history →
      plan.segmentAt raster video earlier = .ok buffers →
      FrameSource.ofSegment plan.engine buffers.initial buffers.media plan.concurrency =
        .error failure →
      Meets history failure
  | decoding {earlier : Nat} {buffers : Buffers} {events : List TileEvent} {frames : List Frame}
      {source after : FrameSource plan.engine} :
      plan.Amid raster video earlier buffers events frames source → source.hasMore = true →
      source.round = (.error failure, after) →
      history = events ++ frameEvents buffers video.extent frames → Meets history failure

def Begins (history : List TileEvent) : Prop :=
  ∃ limit, history <+: (plan.tileStream raster video limit).1

def Ends (history : List TileEvent) : Prop :=
  ∃ limit, plan.tileStream raster video limit = (history, true)

variable {plan : Plan} {raster : Nat} {video : VideoSet}

theorem Passed.stream {earlier : Nat} {events : List TileEvent}
    (passed : plan.Passed raster video earlier events) :
    ∃ least, ∀ rounds, least ≤ rounds → ∀ segments,
      plan.streamFrom raster video rounds (earlier + segments) 0 =
        (events ++ (plan.streamFrom raster video rounds segments earlier).1,
          (plan.streamFrom raster video rounds segments earlier).2) := by
  induction passed with
  | start => exact ⟨0, fun rounds _ segments => by simp⟩
  | @segment earlier enough events buffers frames _ segment decoded ih =>
      obtain ⟨least, streamed⟩ := ih
      refine ⟨max least enough, ?_⟩
      intro rounds le segments
      have same := (plan.decodedAt_mono buffers (show enough ≤ rounds by omega)).2
      rw [decoded] at same
      rw [show earlier + 1 + segments = earlier + (segments + 1) by omega,
        streamed rounds (by omega)]
      simp [streamFrom, segment, same rfl]

theorem Amid.stream {earlier : Nat} {buffers : Buffers} {events : List TileEvent}
    {frames : List Frame} {source : FrameSource plan.engine}
    (amid : plan.Amid raster video earlier buffers events frames source) :
    ∃ least, ∀ limit, least ≤ limit → ∃ more segments,
      plan.tileStream raster video limit =
        (events ++ (plan.streamFrom raster video limit (segments + 1) earlier).1,
          (plan.streamFrom raster video limit (segments + 1) earlier).2) ∧
      plan.decodedAt buffers limit = (frames ++ (source.play more).1, (source.play more).2) ∧
      limit ≤ more + least := by
  obtain ⟨least, streamed⟩ := amid.passed.stream
  obtain ⟨first, opened, yields⟩ := amid.opened
  obtain ⟨rounds, played⟩ := yields.play
  refine ⟨least + rounds + earlier + 1, ?_⟩
  intro limit le
  refine ⟨limit - rounds, limit - earlier - 1, ?_, ?_, by omega⟩
  · rw [tileStream, ← streamed limit (by omega)]
    congr 1
    omega
  · have enough := played (limit - rounds)
    rw [show rounds + (limit - rounds) = limit by omega] at enough
    rw [decodedAt, opened]
    exact enough

theorem Amid.decoded {earlier : Nat} {buffers : Buffers} {events : List TileEvent}
    {frames : List Frame} {source : FrameSource plan.engine}
    (amid : plan.Amid raster video earlier buffers events frames source) :
    ∃ rounds, frames <+: (plan.decodedAt buffers rounds).1 := by
  obtain ⟨first, opened, yields⟩ := amid.opened
  obtain ⟨rounds, played⟩ := yields.play
  refine ⟨rounds, ?_⟩
  simp only [decodedAt, opened]
  rw [← Nat.add_zero rounds, played 0]
  exact List.prefix_append _ _

theorem Passed.begins {earlier : Nat} {events : List TileEvent}
    (passed : plan.Passed raster video earlier events) : plan.Begins raster video events := by
  obtain ⟨least, streamed⟩ := passed.stream
  refine ⟨earlier + least, ?_⟩
  rw [tileStream, streamed _ (by omega)]
  exact List.prefix_append _ _

theorem Amid.begins {earlier : Nat} {buffers : Buffers} {events : List TileEvent}
    {frames : List Frame} {source : FrameSource plan.engine}
    (amid : plan.Amid raster video earlier buffers events frames source) :
    plan.Begins raster video (events ++ frameEvents buffers video.extent frames) := by
  obtain ⟨least, streamed⟩ := amid.stream
  obtain ⟨more, segments, stream, decoded, _⟩ := streamed least (Nat.le_refl _)
  refine ⟨least, ?_⟩
  rw [stream]
  apply (List.prefix_append_right_inj events).mpr
  have longer := frameEvents_append buffers video.extent frames (source.play more).1
  simp only [streamFrom, amid.segment, decoded]
  split
  · exact longer
  · exact longer.trans (List.prefix_append _ _)
  · exact longer.trans (List.prefix_append _ _)

theorem Begins.shorter {history longer : List TileEvent}
    (begins : plan.Begins raster video longer) (shorter : history <+: longer) :
    plan.Begins raster video history := by
  obtain ⟨limit, stream⟩ := begins
  exact ⟨limit, shorter.trans stream⟩

theorem Ends.begins {history : List TileEvent} (ends : plan.Ends raster video history) :
    plan.Begins raster video history := by
  obtain ⟨limit, stream⟩ := ends
  exact ⟨limit, [], by simp [stream]⟩

theorem Meets.ends {history : List TileEvent} {failure : Failure}
    (meets : plan.Meets raster video history failure) :
    plan.Ends raster video (history ++ endMarker failure) := by
  cases meets with
  | @segment earlier passed failed =>
      obtain ⟨least, streamed⟩ := passed.stream
      refine ⟨earlier + (least + 1), ?_⟩
      rw [tileStream, streamed _ (by omega)]
      simp [streamFrom, failed]
  | @opening earlier buffers passed segment failed =>
      obtain ⟨least, streamed⟩ := passed.stream
      refine ⟨earlier + (least + 1), ?_⟩
      rw [tileStream, streamed _ (by omega)]
      simp [streamFrom, segment, decodedAt, failed, frameEvents]
  | @decoding earlier buffers events frames source after amid more failed same =>
      obtain ⟨least, streamed⟩ := amid.stream
      obtain ⟨further, segments, stream, decoded, enough⟩ := streamed (least + 1) (by omega)
      obtain ⟨fewer, rfl⟩ : ∃ fewer, further = fewer + 1 := ⟨further - 1, by omega⟩
      refine ⟨least + 1, ?_⟩
      rw [stream, same]
      have stops : source.play (fewer + 1) = ([], some (.error failure)) := by
        rw [FrameSource.play, if_pos more, failed]
      simp [streamFrom, amid.segment, decoded, stops]

end Plan

end TiledStream
