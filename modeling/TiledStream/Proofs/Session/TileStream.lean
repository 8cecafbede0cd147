import TiledStream.Session.State

/-! The stream of a tile: what its inputs alone say should be queued for it. It may have no end, so
it is given up to any number of segments and of decoder rounds. -/

namespace TiledStream

structure Wanted where
  representation : Nat
  initialization : String
  media : String
  deriving DecidableEq

namespace FrameSource

variable {engine : Engine}

/-- The frames that some rounds yield, and how they ended: flushed, with a failure, or not yet. -/
def play (source : FrameSource engine) :
    (rounds : Nat) → List Frame × Option (Except Failure Unit)
  | 0 => ([], none)
  | rounds + 1 =>
    if source.hasMore then
      match source.round with
      | (.ok batch, after) => (batch ++ (after.play rounds).1, (after.play rounds).2)
      | (.error failure, _) => ([], some (.error failure))
    else ([], some (.ok ()))

theorem play_succ_of_batch {source after : FrameSource engine} {batch : List Frame}
    (more : source.hasMore = true) (ran : source.round = (.ok batch, after)) (rounds : Nat) :
    source.play (rounds + 1) = (batch ++ (after.play rounds).1, (after.play rounds).2) := by
  rw [play, if_pos more, ran]

theorem play_mono (source : FrameSource engine) {small large : Nat} (le : small ≤ large) :
    (source.play small).1 <+: (source.play large).1 ∧
      ((source.play small).2.isSome = true → source.play large = source.play small) := by
  induction small generalizing source large with
  | zero => simp [play]
  | succ small ih =>
      obtain ⟨large, rfl⟩ : ∃ fewer, large = fewer + 1 := ⟨large - 1, by omega⟩
      by_cases more : source.hasMore = true
      · rcases ran : source.round with ⟨failure | batch, after⟩
        · simp [play, more, ran]
        · obtain ⟨shorter, ended⟩ := ih after (Nat.le_of_succ_le_succ le)
          rw [play_succ_of_batch more ran, play_succ_of_batch more ran]
          refine ⟨(List.prefix_append_right_inj batch).mpr shorter, ?_⟩
          intro stopped
          rw [ended stopped]
      · simp [play, more]

end FrameSource

def endMarker : Failure → List TileEvent
  | .fault _ => []
  | .error error =>
    if error = .aborted then []
    else if error.isEndOfStream then [.endOfStream]
    else [.error error.kind]

def taggedFrame (buffers : Buffers) (extent : Extent) (index : Nat) (frame : Frame) : Frame :=
  let unsized := frame.width == 0 && frame.height == 0
  { segment := buffers.segment
    index
    representation := buffers.representation
    width := if unsized then extent.width else frame.width
    height := if unsized then extent.height else frame.height
    data := frame.data }

def frameEvents (buffers : Buffers) (extent : Extent) (frames : List Frame) : List TileEvent :=
  frames.mapIdx fun index frame => .frame (taggedFrame buffers extent index frame)

namespace Plan

variable (plan : Plan) (raster : Nat) (video : VideoSet)

def wanted (earlier : Nat) : Except Fault Wanted := do
  let choice ← plan.choose video.tile earlier video.representations.length
  let representation := clampIndex choice video.representations.length
  let chosen ← video.representation representation
  let path ← chosen.mediaPath (earlier + 1)
  pure {
    representation
    initialization := Url.resolve plan.manifestUrl chosen.initialization
    media := Url.resolve plan.manifestUrl path }

/-- Whether a segment can use the initialization of the one before. -/
def staysWith (earlier : Nat) : Bool :=
  (plan.wanted video (earlier + 1)).toOption.map (·.representation) ==
    (plan.wanted video earlier).toOption.map (·.representation)

def places : (earlier : Nat) → Nat × Nat
  | 0 => (0, 1)
  | earlier + 1 =>
    if plan.staysWith video earlier then ((places earlier).1, (places earlier).2 + 1)
    else ((places earlier).2 + 1, (places earlier).2 + 2)

def segmentAt (earlier : Nat) : Except Failure Buffers :=
  match plan.wanted video earlier with
  | .error fault => .error (.fault fault)
  | .ok wanted =>
    let places := plan.places video earlier
    match plan.answer raster places.2 wanted.media with
    | .error error => .error (.error error)
    | .ok media =>
      if media.isEmpty then
        .error (.error (.badResponse ("segment " ++ toString (earlier + 1) ++ " is empty")))
      else
        match plan.answer raster places.1 wanted.initialization with
        | .error error => .error (.error error)
        | .ok initial =>
          .ok { segment := earlier + 1, representation := wanted.representation, initial, media }

def decodedAt (buffers : Buffers) (rounds : Nat) : List Frame × Option (Except Failure Unit) :=
  match FrameSource.ofSegment plan.engine buffers.initial buffers.media plan.concurrency with
  | .error failure => ([], some (.error failure))
  | .ok source => source.play rounds

def streamFrom (rounds : Nat) : (segments earlier : Nat) → List TileEvent × Bool
  | 0, _ => ([], false)
  | segments + 1, earlier =>
    match plan.segmentAt raster video earlier with
    | .error failure => (endMarker failure, true)
    | .ok buffers =>
      let decoded := plan.decodedAt buffers rounds
      let frames := frameEvents buffers video.extent decoded.1
      match decoded.2 with
      | none => (frames, false)
      | some (.error failure) => (frames ++ endMarker failure, true)
      | some (.ok ()) =>
        let following := streamFrom rounds segments (earlier + 1)
        (frames ++ following.1, following.2)

/-- The stream of a tile, up to a limit of segments and of rounds within a segment. -/
def tileStream (limit : Nat) : List TileEvent × Bool := plan.streamFrom raster video limit limit 0

variable {plan : Plan} {raster : Nat} {video : VideoSet}

theorem decodedAt_mono (plan : Plan) (buffers : Buffers) {small large : Nat} (le : small ≤ large) :
    (plan.decodedAt buffers small).1 <+: (plan.decodedAt buffers large).1 ∧
      ((plan.decodedAt buffers small).2.isSome = true →
        plan.decodedAt buffers large = plan.decodedAt buffers small) := by
  unfold decodedAt
  split
  · exact ⟨List.prefix_rfl, fun _ => rfl⟩
  · rename_i source _
    exact source.play_mono le

theorem frameEvents_append (buffers : Buffers) (extent : Extent) (frames more : List Frame) :
    frameEvents buffers extent frames <+: frameEvents buffers extent (frames ++ more) := by
  unfold frameEvents
  rw [List.mapIdx_append]
  exact List.prefix_append _ _

theorem frameEvents_mono (buffers : Buffers) (extent : Extent) {frames more : List Frame}
    (shorter : frames <+: more) :
    frameEvents buffers extent frames <+: frameEvents buffers extent more := by
  obtain ⟨rest, rfl⟩ := shorter
  exact frameEvents_append buffers extent frames rest

theorem streamFrom_mono {smallRounds largeRounds smallSegments largeSegments : Nat}
    (rounds : smallRounds ≤ largeRounds) (segments : smallSegments ≤ largeSegments)
    (earlier : Nat) :
    (plan.streamFrom raster video smallRounds smallSegments earlier).1 <+:
        (plan.streamFrom raster video largeRounds largeSegments earlier).1 ∧
      ((plan.streamFrom raster video smallRounds smallSegments earlier).2 = true →
        plan.streamFrom raster video largeRounds largeSegments earlier =
          plan.streamFrom raster video smallRounds smallSegments earlier) := by
  induction smallSegments generalizing largeSegments earlier with
  | zero => simp [streamFrom]
  | succ smallSegments ih =>
      obtain ⟨largeSegments, rfl⟩ : ∃ fewer, largeSegments = fewer + 1 :=
        ⟨largeSegments - 1, by omega⟩
      simp only [streamFrom]
      cases plan.segmentAt raster video earlier with
      | error failure => exact ⟨List.prefix_rfl, fun _ => rfl⟩
      | ok buffers =>
          obtain ⟨fewer, same⟩ := plan.decodedAt_mono buffers rounds
          -- A segment whose end the lower limit does not show ends the stream there for now.
          rcases small : plan.decodedAt buffers smallRounds with ⟨frames, _ | ending⟩
          · simp only [small] at fewer ⊢
            refine ⟨?_, by simp⟩
            have shorter := frameEvents_mono buffers video.extent fewer
            split
            · exact shorter
            · exact shorter.trans (List.prefix_append _ _)
            · exact shorter.trans (List.prefix_append _ _)
          · dsimp only
            rw [same (by rw [small]; rfl), small]
            cases ending with
            | error failure => exact ⟨List.prefix_rfl, fun _ => rfl⟩
            | ok finished =>
                obtain ⟨shorter, ended⟩ := ih (Nat.le_of_succ_le_succ segments) (earlier + 1)
                refine ⟨(List.prefix_append_right_inj _).mpr shorter, ?_⟩
                intro stopped
                rw [ended stopped]

/-- A higher limit shows more of the stream, and nothing else once its end is seen. -/
theorem tileStream_mono {small large : Nat} (le : small ≤ large) :
    (plan.tileStream raster video small).1 <+: (plan.tileStream raster video large).1 ∧
      ((plan.tileStream raster video small).2 = true →
        plan.tileStream raster video large = plan.tileStream raster video small) :=
  streamFrom_mono le le 0

end Plan

end TiledStream
