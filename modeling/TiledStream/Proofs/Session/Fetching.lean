import TiledStream.Proofs.Session.TileStream
import TiledStream.Proofs.Tile.Requests
import TiledStream.Session.Step

/-! The requests of a tile's streamer: what it fetches for each segment, and where among its fetches
the answers are found. -/

namespace TiledStream

namespace Plan

variable (plan : Plan) (video : VideoSet)

def fetchCount : (requests : Nat) → Nat
  | 0 => 0
  | earlier + 1 => (plan.places video earlier).2 + 1

def sharedAfter : (requests : Nat) → Option (Nat × Nat)
  | 0 => none
  | earlier + 1 =>
    (plan.wanted video earlier).toOption.map fun wanted =>
      (wanted.representation, (plan.places video earlier).1)

def requestAt (wanted : Wanted) (earlier : Nat) : SegmentRequest where
  segment := earlier + 1
  representation := wanted.representation
  initial := (plan.places video earlier).1
  media := (plan.places video earlier).2

structure Asked (requests : Nat) (streamer : Streamer) : Prop where
  tile : streamer.tile = video.tile
  asked : streamer.asked = requests
  nextSegment : streamer.nextSegment = requests + 1
  shared : streamer.shared = plan.sharedAfter video requests
  count : streamer.fetches.length = plan.fetchCount video requests
  fetched : ∀ earlier < requests, ∃ wanted, plan.wanted video earlier = .ok wanted ∧
    streamer.fetches[(plan.places video earlier).1]? = some wanted.initialization ∧
    streamer.fetches[(plan.places video earlier).2]? = some wanted.media

variable {plan : Plan} {video : VideoSet}

theorem asked_start (tileIndex : Nat) : plan.Asked video 0 (Streamer.start video.tile tileIndex) :=
  { tile := rfl
    asked := rfl
    nextSegment := rfl
    shared := rfl
    count := rfl
    fetched := fun earlier before => absurd before (Nat.not_lt_zero earlier) }

theorem wanted_eq_ok {earlier : Nat} {wanted : Wanted}
    (granted : plan.wanted video earlier = .ok wanted) :
    ∃ choice chosen path,
      plan.choose video.tile earlier video.representations.length = .ok choice ∧
      wanted.representation = clampIndex choice video.representations.length ∧
      video.representation wanted.representation = .ok chosen ∧
      chosen.mediaPath (earlier + 1) = .ok path ∧
      wanted.initialization = Url.resolve plan.manifestUrl chosen.initialization ∧
      wanted.media = Url.resolve plan.manifestUrl path := by
  unfold Plan.wanted at granted
  obtain ⟨choice, made, granted⟩ := bind_eq_ok granted
  obtain ⟨chosen, found, granted⟩ := bind_eq_ok granted
  obtain ⟨path, filled, granted⟩ := bind_eq_ok granted
  obtain rfl := Except.ok.inj granted
  exact ⟨choice, chosen, path, made, rfl, found, filled, rfl, rfl⟩

theorem initialization_eq {first second : Nat} {here there : Wanted}
    (granted : plan.wanted video first = .ok here)
    (later : plan.wanted video second = .ok there)
    (same : there.representation = here.representation) :
    there.initialization = here.initialization := by
  obtain ⟨_, chosen, _, _, _, found, _, address, _⟩ := wanted_eq_ok granted
  obtain ⟨_, other, _, _, _, found_other, _, address_other, _⟩ := wanted_eq_ok later
  rw [same, found] at found_other
  rw [address, address_other, Except.ok.inj found_other]

theorem staysWith_iff {earlier : Nat} {here there : Wanted}
    (granted : plan.wanted video earlier = .ok here)
    (later : plan.wanted video (earlier + 1) = .ok there) :
    plan.staysWith video earlier = true ↔ here.representation = there.representation := by
  simp only [staysWith, granted, later, Except.toOption, Option.map_some, beq_iff_eq,
    Option.some.injEq]
  exact eq_comm

theorem Asked.shareInitial {requests : Nat} {streamer sharing : Streamer} {wanted : Wanted}
    (asked : plan.Asked video requests streamer)
    (granted : plan.wanted video requests = .ok wanted) {place : Nat} {after : Streamer}
    (found : sharing.shareInitial wanted.representation wanted.initialization = (place, after))
    (shared : sharing.shared = streamer.shared) (fetches : sharing.fetches = streamer.fetches) :
    place = (plan.places video requests).1 ∧
      after.shared = some (wanted.representation, (plan.places video requests).1) ∧
      after.fetches.length = (plan.places video requests).2 ∧
      streamer.fetches <+: after.fetches ∧
      after.fetches[(plan.places video requests).1]? = some wanted.initialization := by
  have count := asked.count
  rw [asked.shared] at shared
  cases requests with
  | zero =>
      simp only [sharedAfter] at shared
      simp only [fetchCount] at count
      simp only [Streamer.shareInitial, shared, Prod.mk.injEq] at found
      obtain ⟨rfl, rfl⟩ := found
      simp [fetches, count, places]
  | succ earlier =>
      obtain ⟨last, granted_last, at_last, _⟩ := asked.fetched earlier (Nat.lt_succ_self earlier)
      simp only [sharedAfter, granted_last, Except.toOption, Option.map_some] at shared
      simp only [fetchCount] at count
      have stays := staysWith_iff granted_last granted
      simp only [Streamer.shareInitial, shared] at found
      -- The shared initialization serves until the selector changes the representation.
      by_cases same : last.representation = wanted.representation
      · rw [if_pos same, Prod.mk.injEq] at found
        obtain ⟨rfl, rfl⟩ := found
        have address := initialization_eq granted_last granted same.symm
        simp [shared, same, fetches, count, places, stays.mpr same, address, at_last]
      · rw [if_neg same, Prod.mk.injEq] at found
        obtain ⟨rfl, rfl⟩ := found
        have moves : plan.staysWith video earlier = false := by
          rw [← Bool.not_eq_true, stays]
          exact same
        simp [fetches, count, places, moves]

theorem fetchSegment_eq_ok {streamer after : Streamer} {index : Nat}
    {chosen : Representation} {manifestUrl : String} {request : SegmentRequest}
    (fetched : streamer.fetchSegment manifestUrl index chosen = (.ok request, after)) :
    ∃ path place sharing, chosen.mediaPath streamer.nextSegment = .ok path ∧
      (streamer.remember index).shareInitial index
        (Url.resolve manifestUrl chosen.initialization) = (place, sharing) ∧
      request = {
        segment := streamer.nextSegment
        representation := index
        initial := place
        media := sharing.fetches.length } ∧
      after = { sharing with
        fetches := sharing.fetches ++ [Url.resolve manifestUrl path]
        nextSegment := streamer.nextSegment + 1 } := by
  unfold Streamer.fetchSegment at fetched
  dsimp only at fetched
  split at fetched
  · simp at fetched
  · rename_i path filled
    simp only [Prod.mk.injEq, Except.ok.injEq] at fetched
    exact ⟨path, _, _, filled, rfl, fetched.1.symm, fetched.2.symm⟩

theorem Asked.request {requests : Nat} {streamer after : Streamer} {cancelled : Bool}
    {request : SegmentRequest} (asked : plan.Asked video requests streamer)
    (placed : plan.manifest.videoSet video.tile = .ok video)
    (made : streamer.request plan.manifest plan.manifestUrl plan.choose cancelled =
      (.ok request, after)) :
    plan.Asked video (requests + 1) after ∧
      ∃ wanted, plan.wanted video requests = .ok wanted ∧
        request = plan.requestAt video wanted requests := by
  unfold Streamer.request at made
  split at made
  · simp at made
  · rw [asked.tile, placed, asked.asked] at made
    dsimp only at made
    split at made
    · simp at made
    · rename_i choice chose
      split at made
      · simp at made
      · rename_i chosen found
        obtain ⟨path, place, sharing, filled, shared, rfl, rfl⟩ := fetchSegment_eq_ok made
        simp only [asked.nextSegment] at filled ⊢
        have granted : plan.wanted video requests = .ok {
            representation := clampIndex choice video.representations.length
            initialization := Url.resolve plan.manifestUrl chosen.initialization
            media := Url.resolve plan.manifestUrl path } := by
          simp [wanted, chose, found, filled, bind, Except.bind, pure, Except.pure]
        obtain ⟨rfl, now_shared, length, longer, initial⟩ :=
          asked.shareInitial granted shared rfl rfl
        obtain ⟨same_tile, _, same_asked, _, _⟩ := Streamer.shareInitial_keeps shared
        refine ⟨?_, _, granted, ?_⟩
        · refine {
            tile := same_tile
            asked := same_asked
            nextSegment := rfl
            shared := ?_
            count := ?_
            fetched := ?_ }
          · simp [sharedAfter, granted, now_shared, Except.toOption]
          · simp [fetchCount, length]
          · intro earlier before
            rcases Nat.lt_succ_iff_lt_or_eq.mp before with less | rfl
            · obtain ⟨other, granted_other, at_initial, at_media⟩ := asked.fetched earlier less
              have grown : streamer.fetches <+:
                  sharing.fetches ++ [Url.resolve plan.manifestUrl path] :=
                longer.trans (List.prefix_append _ _)
              exact ⟨other, granted_other, getElem?_longer grown at_initial,
                getElem?_longer grown at_media⟩
            · refine ⟨_, granted, getElem?_longer (List.prefix_append _ _) initial, ?_⟩
              simp [← length]
        · simp [requestAt, length]

theorem Asked.refused {requests : Nat} {streamer after : Streamer} {cancelled : Bool}
    {failure : Failure} (asked : plan.Asked video requests streamer)
    (placed : plan.manifest.videoSet video.tile = .ok video)
    (made : streamer.request plan.manifest plan.manifestUrl plan.choose cancelled =
      (.error failure, after)) :
    (cancelled = true ∧ failure = .error .aborted) ∨
      ∃ fault, failure = .fault fault ∧ plan.wanted video requests = .error fault := by
  unfold Streamer.request at made
  split at made
  · rename_i stopped
    simp only [Prod.mk.injEq, Except.error.injEq] at made
    exact .inl ⟨stopped, made.1.symm⟩
  · right
    rw [asked.tile, placed, asked.asked] at made
    dsimp only at made
    split at made
    · rename_i fault chose
      simp only [Prod.mk.injEq, Except.error.injEq] at made
      exact ⟨fault, made.1.symm, by simp [wanted, chose, bind, Except.bind]⟩
    · rename_i choice chose
      split at made
      · rename_i fault found
        simp only [Prod.mk.injEq, Except.error.injEq] at made
        exact ⟨fault, made.1.symm, by simp [wanted, chose, found, bind, Except.bind]⟩
      · rename_i chosen found
        simp only [Streamer.fetchSegment, asked.nextSegment] at made
        split at made
        · rename_i fault filled
          simp only [Prod.mk.injEq, Except.error.injEq] at made
          exact ⟨fault, made.1.symm, by simp [wanted, chose, found, filled, bind, Except.bind]⟩
        · simp at made

theorem Asked.resolve (raster : Nat) {requests earlier : Nat} {streamer : Streamer}
    {wanted : Wanted} (asked : plan.Asked video requests streamer) (before : earlier < requests)
    (granted : plan.wanted video earlier = .ok wanted) :
    plan.segmentAt raster video earlier =
      ((plan.requestAt video wanted earlier).resolve
        (Session.answerAt plan raster streamer)).mapError .error := by
  obtain ⟨same, granted_same, at_initial, at_media⟩ := asked.fetched earlier before
  obtain rfl : wanted = same := Except.ok.inj (granted.symm.trans granted_same)
  simp only [segmentAt, granted, SegmentRequest.resolve, requestAt, Session.answerAt, at_media,
    at_initial]
  cases plan.answer raster (plan.places video earlier).2 wanted.media with
  | error error => rfl
  | ok media =>
      simp only [bind, Except.bind]
      split
      · rfl
      · cases plan.answer raster (plan.places video earlier).1 wanted.initialization with
        | error error => rfl
        | ok initial => rfl

theorem Asked.await_ok {raster requests earlier : Nat} {streamer : Streamer} {wanted : Wanted}
    {cancelled : Bool} {buffers : Buffers} (asked : plan.Asked video requests streamer)
    (before : earlier < requests) (granted : plan.wanted video earlier = .ok wanted)
    (answered : (plan.requestAt video wanted earlier).await
      (Session.answerAt plan raster streamer) cancelled = .ok buffers) :
    plan.segmentAt raster video earlier = .ok buffers := by
  unfold SegmentRequest.await at answered
  split at answered
  · simp at answered
  · rw [asked.resolve raster before granted, answered]
    rfl

theorem Asked.await_error {raster requests earlier : Nat} {streamer : Streamer} {wanted : Wanted}
    {cancelled : Bool} {error : StreamError} (asked : plan.Asked video requests streamer)
    (before : earlier < requests) (granted : plan.wanted video earlier = .ok wanted)
    (answered : (plan.requestAt video wanted earlier).await
      (Session.answerAt plan raster streamer) cancelled = .error error) :
    (cancelled = true ∧ error = .aborted) ∨
      plan.segmentAt raster video earlier = .error (.error error) := by
  unfold SegmentRequest.await at answered
  split at answered
  · rename_i stopped
    exact .inl ⟨stopped, (Except.error.inj answered).symm⟩
  · right
    rw [asked.resolve raster before granted, answered]
    rfl

end Plan

theorem Streamer.nextSegment_of_request {streamer after : Streamer} {manifest : Manifest}
    {manifestUrl : String} {choose : Selector} {cancelled : Bool} {request : SegmentRequest}
    (made : streamer.request manifest manifestUrl choose cancelled = (.ok request, after)) :
    request.segment = streamer.nextSegment ∧ after.nextSegment = request.segment + 1 := by
  unfold Streamer.request at made
  split at made
  · simp at made
  · split at made
    · simp at made
    · dsimp only at made
      split at made
      · simp at made
      · split at made
        · simp at made
        · obtain ⟨_, _, _, _, _, rfl, rfl⟩ := Plan.fetchSegment_eq_ok made
          exact ⟨rfl, rfl⟩

end TiledStream
