import TiledStream.Proofs.Session.Ending

/-! What a step of a worker does in a cancelled session: it fetches nothing, goes on with the
segment at hand, or gets one step further on its way out. -/

namespace TiledStream

namespace Stage

variable {engine : Engine}

def atHand? : Stage engine → Option Nat
  | .recording _ held | .publishing _ held => held.map (·.segment)
  | .opening _ buffers => some buffers.segment
  | .decoding work | .writing work _ | .counting work | .promoting work => some work.buffers.segment
  | _ => none

/-- How many steps away a worker is from the end, once it found the session cancelled as it asked or
waited for a segment, or is about to find it so. -/
def stepsOut? : Stage engine → Option Nat
  | .requesting _ | .waiting _ => some 4
  | .ending .aborted => some 3
  | .exiting => some 2
  | .leaving => some 1
  | .gone => some 0
  | _ => none

def hasGivenUp : Stage engine → Bool
  | .ending error => decide (error = .aborted)
  | stage => stage.isStopping

def Numbered (streamer : Streamer) : Stage engine → Prop
  | .unstarted | .requesting none => streamer.nextSegment = 1
  | .requesting (some buffers) => streamer.nextSegment = buffers.segment + 1
  | .recording request held | .publishing request held =>
    streamer.nextSegment = request.segment + 1 ∧
      ∀ buffers, held = some buffers → request.segment = buffers.segment + 1
  | .waiting request => streamer.nextSegment = request.segment + 1
  | .opening following buffers =>
    streamer.nextSegment = following.segment + 1 ∧ following.segment = buffers.segment + 1
  | .decoding work | .counting work | .promoting work =>
    streamer.nextSegment = work.following.segment + 1 ∧
      work.following.segment = work.buffers.segment + 1
  | .writing work frame =>
    (streamer.nextSegment = work.following.segment + 1 ∧
      work.following.segment = work.buffers.segment + 1) ∧ frame.segment = work.buffers.segment
  | .marking event _ => event.frame? = none
  | _ => True

theorem Numbered.segmentsRequested {streamer : Streamer} {stage : Stage engine} {segment : Nat}
    (numbered : stage.Numbered streamer) (atHand : stage.atHand? = some segment) :
    streamer.segmentsRequested = segment + 1 := by
  have counted (following : Nat)
      (numbers : streamer.nextSegment = following + 1 ∧ following = segment + 1) :
      streamer.segmentsRequested = segment + 1 := by
    rw [Streamer.segmentsRequested, numbers.1, numbers.2, Nat.add_sub_cancel]
  cases stage with
  | recording request held | publishing request held =>
      obtain ⟨buffers, rfl, rfl⟩ := Option.map_eq_some_iff.mp atHand
      exact counted _ ⟨numbered.1, numbered.2 buffers rfl⟩
  | opening following buffers =>
      obtain rfl := Option.some.inj atHand
      exact counted _ numbered
  | decoding work | counting work | promoting work =>
      obtain rfl := Option.some.inj atHand
      exact counted _ numbered
  | writing work frame =>
      obtain rfl := Option.some.inj atHand
      exact counted _ numbered.1
  | _ => simp [atHand?] at atHand

end Stage

theorem SegmentRequest.segment_of_await {request : SegmentRequest} {buffers : Buffers}
    {answerAt : Nat → Except StreamError Bytes} {cancelled : Bool}
    (answered : request.await answerAt cancelled = .ok buffers) :
    buffers.segment = request.segment := by
  unfold await at answered
  split at answered
  · simp at answered
  · unfold resolve at answered
    obtain ⟨media, _, answered⟩ := bind_eq_ok answered
    split at answered
    · simp at answered
    · obtain ⟨initial, _, answered⟩ := bind_eq_ok answered
      rw [← Except.ok.inj answered]

namespace Session

variable {plan : Plan} {session next : Session plan} {raster : Nat} {tile : TileState plan.engine}

theorem numbered_stageAfter (streamer : Streamer) (failure : Failure) :
    (stageAfter failure : Stage plan.engine).Numbered streamer := by
  cases failure <;> trivial

theorem numbered_stageAfterEnd (streamer : Streamer) (error : StreamError) :
    (stageAfterEnd error : Stage plan.engine).Numbered streamer := by
  unfold stageAfterEnd
  split
  · trivial
  · split <;> rfl

theorem numbered_stageAfterMark (streamer : Streamer) (fatal : Bool) :
    (stageAfterMark fatal : Stage plan.engine).Numbered streamer := by
  cases fatal <;> trivial

theorem atHand_stageAfter (failure : Failure) :
    (stageAfter failure : Stage plan.engine).atHand? = none := by
  cases failure <;> rfl

theorem atHand_stageAfterEnd (error : StreamError) :
    (stageAfterEnd error : Stage plan.engine).atHand? = none := by
  unfold stageAfterEnd
  split
  · rfl
  · split <;> rfl

theorem atHand_stageAfterMark (fatal : Bool) :
    (stageAfterMark fatal : Stage plan.engine).atHand? = none := by
  cases fatal <;> rfl

theorem WorkerChange.numbered (change : WorkerChange session raster tile next)
    (numbered : tile.stage.Numbered tile.streamer) :
    ∃ after, next.tiles = session.tiles.set raster after ∧
      after.stage.Numbered after.streamer := by
  cases change with
  | requested held request streamer status made =>
      rw [status] at numbered
      obtain ⟨first, following⟩ := Streamer.nextSegment_of_request made
      refine ⟨_, rfl, following, ?_⟩
      rintro buffers rfl
      exact first.trans numbered
  | refused held failure streamer status made =>
      exact ⟨_, rfl, numbered_stageAfter _ _⟩
  | recorded request held status =>
      rw [status] at numbered
      exact ⟨_, rfl, numbered⟩
  | published request held status =>
      rw [status] at numbered
      refine ⟨_, rfl, ?_⟩
      cases held with
      | none => exact numbered.1
      | some buffers => exact ⟨numbered.1, numbered.2 buffers rfl⟩
  | received request buffers status answered =>
      rw [status] at numbered
      refine ⟨_, rfl, ?_⟩
      show tile.streamer.nextSegment = buffers.segment + 1
      rw [SegmentRequest.segment_of_await answered]
      exact numbered
  | opened following buffers source status =>
      rw [status] at numbered
      exact ⟨_, rfl, numbered⟩
  | unopened _ _ failure | undecoded _ failure => exact ⟨_, rfl, numbered_stageAfter _ _⟩
  | picked work frame rest status =>
      rw [status] at numbered
      exact ⟨_, rfl, numbered, rfl⟩
  | decoded work batch source status =>
      rw [status] at numbered
      exact ⟨_, rfl, numbered⟩
  | finished work status =>
      rw [status] at numbered
      exact ⟨_, rfl, numbered.1⟩
  | wrote work frame queue status =>
      rw [status] at numbered
      exact ⟨_, rfl, numbered.1⟩
  | counted work status | promoted work status =>
      rw [status] at numbered
      exact ⟨_, rfl, numbered⟩
  | ended error => exact ⟨_, rfl, numbered_stageAfterEnd _ _⟩
  | marked event fatal | unmarked event fatal => exact ⟨_, rfl, numbered_stageAfterMark _ _⟩
  | left => exact ⟨_, met_tiles _ _, trivial⟩
  | _ => exact ⟨_, rfl, trivial⟩

/-- What a tile of a cancelled session still does: nothing is fetched for it, and the frames that it
queues belong to the segment at hand. -/
structure Contained (tile after : TileState plan.engine) : Prop where
  streamer : after.streamer = tile.streamer
  history : ∃ events, after.history = tile.history ++ events ∧
    ∀ frame, .frame frame ∈ events → tile.stage.atHand? = some frame.segment
  atHand : ∀ segment, after.stage.atHand? = some segment → tile.stage.atHand? = some segment

theorem Contained.refl (tile : TileState plan.engine) : Contained tile tile where
  streamer := rfl
  history := ⟨[], by simp⟩
  atHand _ := id

theorem Contained.trans {between after : TileState plan.engine} (first : Contained tile between)
    (second : Contained between after) : Contained tile after := by
  obtain ⟨events, grown, frames⟩ := first.history
  obtain ⟨others, again, rest⟩ := second.history
  refine {
    streamer := second.streamer.trans first.streamer
    history := ⟨events ++ others, by rw [again, grown, List.append_assoc], ?_⟩
    atHand := fun segment atHand => first.atHand segment (second.atHand segment atHand) }
  intro frame member
  rcases List.mem_append.mp member with before | here
  · exact frames frame before
  · exact first.atHand _ (rest frame here)

theorem contained_stage {stage : Stage plan.engine} {queue : BoundedQueue TileEvent}
    {stats : TileStats} {consumer : Consumer}
    (atHand : ∀ segment, stage.atHand? = some segment → tile.stage.atHand? = some segment) :
    Contained tile { tile with stage, queue, stats, consumer } where
  streamer := rfl
  history := ⟨[], by simp⟩
  atHand := atHand

theorem WorkerChange.contained (change : WorkerChange session raster tile next)
    (cancelled : session.cancelled = true) (numbered : tile.stage.Numbered tile.streamer) :
    ∃ after, next.tiles = session.tiles.set raster after ∧ Contained tile after := by
  have none_atHand (segment : Nat) {stage : Stage plan.engine} (none : stage.atHand? = none)
      (atHand : stage.atHand? = some segment) : tile.stage.atHand? = some segment := by
    rw [none] at atHand
    exact nomatch atHand
  cases change with
  | requested held request streamer status made =>
      rw [cancelled] at made
      exact nomatch made
  | refused held failure streamer status made =>
      rw [cancelled] at made
      obtain ⟨⟨rfl⟩, rfl⟩ := Prod.mk.inj made
      exact ⟨_, rfl, contained_stage fun segment => none_atHand segment rfl⟩
  | published request held status =>
      refine ⟨_, rfl, contained_stage fun segment atHand => ?_⟩
      rw [status]
      cases held with
      | none => exact nomatch atHand
      | some buffers => exact atHand
  | recorded request held status | opened request held source status
  | picked work frame rest status | decoded work batch source status | counted work status
  | promoted work status =>
      refine ⟨_, rfl, contained_stage fun segment atHand => ?_⟩
      rw [status]
      exact atHand
  | unopened _ _ failure | undecoded _ failure =>
      exact ⟨_, rfl, contained_stage fun segment => none_atHand segment (atHand_stageAfter failure)⟩
  | wrote work frame queue status =>
      rw [status] at numbered
      refine ⟨_, rfl, rfl, ⟨[.frame frame], rfl, ?_⟩, fun segment atHand => ?_⟩
      · intro other member
        rw [List.mem_singleton, TileEvent.frame.injEq] at member
        rw [status, member, numbered.2]
        rfl
      · rw [status]
        exact atHand
  | ended error =>
      exact ⟨_, rfl,
        contained_stage fun segment => none_atHand segment (atHand_stageAfterEnd error)⟩
  | marked event fatal queue status =>
      rw [status] at numbered
      refine ⟨_, rfl, rfl, ⟨[event], rfl, ?_⟩,
        fun segment => none_atHand segment (atHand_stageAfterMark fatal)⟩
      intro frame member
      rw [List.mem_singleton] at member
      rw [← member] at numbered
      exact nomatch numbered
  | unmarked event fatal =>
      exact ⟨_, rfl,
        contained_stage fun segment => none_atHand segment (atHand_stageAfterMark fatal)⟩
  | left => exact ⟨_, met_tiles _ _, contained_stage fun segment => none_atHand segment rfl⟩
  | _ => exact ⟨_, rfl, contained_stage fun segment => none_atHand segment rfl⟩

/-- On its way out a worker gets one step further with each step, and queues nothing. -/
theorem WorkerChange.leaves (change : WorkerChange session raster tile next)
    (cancelled : session.cancelled = true) {left : Nat} (out : tile.stage.stepsOut? = some left) :
    ∃ after fewer, next.tiles = session.tiles.set raster after ∧ after.history = tile.history ∧
      after.stage.stepsOut? = some fewer ∧ left = fewer + 1 := by
  cases change with
  | requested held request streamer status made =>
      rw [cancelled] at made
      exact nomatch made
  | refused held failure streamer status made =>
      rw [cancelled] at made
      obtain ⟨⟨rfl⟩, rfl⟩ := Prod.mk.inj made
      rw [status] at out
      exact ⟨_, 3, rfl, rfl, rfl, (Option.some.inj out).symm⟩
  | received request buffers status answered =>
      rw [cancelled] at answered
      exact nomatch answered
  | missed request error status answered =>
      rw [cancelled] at answered
      obtain rfl := Except.error.inj answered
      rw [status] at out
      exact ⟨_, 3, rfl, rfl, rfl, (Option.some.inj out).symm⟩
  | ended error status =>
      rw [status] at out
      cases error with
      | aborted => exact ⟨_, 2, rfl, rfl, rfl, (Option.some.inj out).symm⟩
      | _ => exact nomatch out
  | exited status =>
      rw [status] at out
      exact ⟨_, 1, rfl, rfl, rfl, (Option.some.inj out).symm⟩
  | left status =>
      rw [status] at out
      exact ⟨_, 0, met_tiles _ _, rfl, rfl, (Option.some.inj out).symm⟩
  | recorded _ _ status | published _ _ status | opened _ _ _ status | unopened _ _ _ status
  | picked _ _ _ status | decoded _ _ _ status | undecoded _ _ _ status | finished _ status
  | wrote _ _ _ status | abandoned _ _ status | counted _ status | promoted _ status
  | marked _ _ _ status | unmarked _ _ status | drains _ _ status | drainsLast _ status =>
      rw [status] at out
      exact nomatch out

theorem workerStep_of_stepsOut (found : session.tiles[raster]? = some tile) {left : Nat}
    (out : tile.stage.stepsOut? = some (left + 1)) :
    ∃ next, session.workerStep raster = some next := by
  cases status : tile.stage with
  | requesting | ending | exiting | leaving =>
      simp only [workerStep, found, status]
      exact ⟨_, rfl⟩
  | waiting request =>
      simp only [workerStep, found, status]
      split
      · exact ⟨_, rfl⟩
      · exact ⟨_, rfl⟩
  | _ =>
      rw [status] at out
      exact nomatch out

theorem WorkerChange.hasGivenUp (change : WorkerChange session raster tile next)
    (gaveUp : tile.stage.hasGivenUp = true) :
    ∃ after, next.tiles = session.tiles.set raster after ∧ after.history = tile.history ∧
      after.queue = tile.queue ∧ after.stage.hasGivenUp = true := by
  cases change with
  | ended error status =>
      rw [status] at gaveUp
      obtain rfl := of_decide_eq_true gaveUp
      exact ⟨_, rfl, rfl, rfl, rfl⟩
  | drains | drainsLast | exited => exact ⟨_, rfl, rfl, rfl, rfl⟩
  | left => exact ⟨_, met_tiles _ _, rfl, rfl, rfl⟩
  | requested _ _ _ status | refused _ _ _ status | received _ _ status | missed _ _ status
  | recorded _ _ status | published _ _ status | opened _ _ _ status | unopened _ _ _ status
  | picked _ _ _ status | decoded _ _ _ status | undecoded _ _ _ status | finished _ status
  | wrote _ _ _ status | abandoned _ _ status | counted _ status | promoted _ status
  | marked _ _ _ status | unmarked _ _ status =>
      rw [status] at gaveUp
      exact nomatch gaveUp

end Session

end TiledStream
