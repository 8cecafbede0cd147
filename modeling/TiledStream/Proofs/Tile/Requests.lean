import TiledStream.Proofs.Manifest.Placement
import TiledStream.Proofs.Manifest.RoundTrip
import TiledStream.Tile.Streamer

/-! Runs of requests for the segments of one tile: segments are numbered without gaps, choices stay
inside the tile's representations, and the initialization segment is fetched once for each stretch
of requests that use it. -/

namespace TiledStream

/-- Whether the media paths of a representation can be written, which no number changes. -/
def VideoSet.spells (video : VideoSet) (index : Nat) : Bool :=
  match video.representations[index]? with
  | some chosen => (chosen.mediaPath 1).toOption.isSome
  | none => false

namespace Streamer

variable (manifest : Manifest) (manifestUrl : String) (choose : Selector) (video : VideoSet)

def choice? (streamer : Streamer) (cancelled : Bool) : Option Nat :=
  if cancelled then none
  else (choose streamer.tile streamer.asked video.representations.length).toOption.map
    fun choice => min choice (video.representations.length - 1)

def takeInitial (streamer : Streamer) (index : Nat) (chosen : Representation) : Nat × Streamer :=
  ({ streamer with asked := streamer.asked + 1 }.remember index).shareInitial index
    (Url.resolve manifestUrl chosen.initialization)

/-- A run of calls, cancelled or not, with what they chose and the requests they were granted. -/
inductive Calls (tileIndex : Nat) :
    (choices : List Nat) → (requests : List SegmentRequest) → Streamer → Prop where
  | start : Calls tileIndex [] [] (.start video.tile tileIndex)
  | call {choices : List Nat} {requests : List SegmentRequest} {streamer after : Streamer}
      {cancelled : Bool} {result : Except Failure SegmentRequest} :
      Calls tileIndex choices requests streamer →
      streamer.request manifest manifestUrl choose cancelled = (result, after) →
      Calls tileIndex (choices ++ (streamer.choice? choose video cancelled).toList)
        (requests ++ result.toOption.toList) after

def IsOwn (fetches : List String) (request : SegmentRequest) : Prop :=
  ∃ chosen path, video.representations[request.representation]? = some chosen ∧
    chosen.mediaPath request.segment = .ok path ∧
    fetches[request.initial]? = some (Url.resolve manifestUrl chosen.initialization) ∧
    fetches[request.media]? = some (Url.resolve manifestUrl path)

/-- Requests and the count of their fetches, where an initialization segment is fetched by the first
request and by each one that changes the representation, and shared by the others. -/
inductive Fetched : List SegmentRequest → Nat → Prop where
  | none : Fetched [] 0
  | changes {requests : List SegmentRequest} {count : Nat} {request : SegmentRequest} :
      Fetched requests count →
      (∀ last ∈ requests.getLast?, last.representation ≠ request.representation) →
      request.initial = count → request.media = count + 1 →
      Fetched (requests ++ [request]) (count + 2)
  | stays {requests : List SegmentRequest} {count : Nat} {last request : SegmentRequest} :
      Fetched requests count → requests.getLast? = some last →
      last.representation = request.representation →
      request.initial = last.initial → request.media = count →
      Fetched (requests ++ [request]) (count + 1)

inductive Answered (streamer : Streamer) :
    (choice? : Option Nat) → Except Failure SegmentRequest → Streamer → Prop where
  | aborted : Answered streamer none (.error (.error .aborted)) streamer
  | gaveUp {fault : Fault} :
      Answered streamer none (.error (.fault fault)) { streamer with asked := streamer.asked + 1 }
  | unspelled {index place : Nat} {chosen : Representation} {after : Streamer} :
      video.representations[index]? = some chosen →
      streamer.takeInitial manifestUrl index chosen = (place, after) →
      video.spells index = false →
      Answered streamer (some index) (.error (.fault .overflow)) after
  | granted {index place : Nat} {chosen : Representation} {path : String} {sharing : Streamer} :
      video.representations[index]? = some chosen →
      streamer.takeInitial manifestUrl index chosen = (place, sharing) →
      video.spells index = true →
      chosen.mediaPath streamer.nextSegment = .ok path →
      Answered streamer (some index)
        (.ok {
          segment := streamer.nextSegment
          representation := index
          initial := place
          media := sharing.fetches.length })
        { sharing with
          fetches := sharing.fetches ++ [Url.resolve manifestUrl path]
          nextSegment := streamer.nextSegment + 1 }

end Streamer

theorem getElem?_longer {Item : Type} {short long : List Item} (shorter : short <+: long)
    {index : Nat} {item : Item} (found : short[index]? = some item) : long[index]? = some item := by
  obtain ⟨rest, rfl⟩ := shorter
  have inside := (List.getElem?_eq_some_iff.mp found).1
  rw [List.getElem?_append_left inside, found]

theorem fillSlot_eq_error {template : List Char} {number : Nat} {fault : Fault}
    (failed : fillSlot template number = .error fault) :
    fault = .overflow ∧ ∀ other, fillSlot template other = .error .overflow := by
  unfold fillSlot at *
  split at failed
  · split at failed
    · rename_i wide
      simp [wide, ← Except.error.inj failed]
    · simp at failed
  · simp at failed

theorem mediaPath_eq_error {representation : Representation} {segment : Nat} {fault : Fault}
    (failed : representation.mediaPath segment = .error fault) :
    fault = .overflow ∧ ∀ other, representation.mediaPath other = .error .overflow := by
  unfold Representation.mediaPath at *
  cases filled : fillSlot representation.media.toList segment with
  | ok path => simp [filled, Except.map] at failed
  | error reason =>
      obtain ⟨rfl, always⟩ := fillSlot_eq_error filled
      rw [filled] at failed
      refine ⟨(Except.error.inj failed).symm, ?_⟩
      intro other
      rw [always other]
      rfl

theorem VideoSet.spells_iff {video : VideoSet} {index : Nat} {chosen : Representation}
    (found : video.representations[index]? = some chosen) (segment : Nat) :
    video.spells index = true ↔ ∃ path, chosen.mediaPath segment = .ok path := by
  simp only [spells, found]
  cases first : chosen.mediaPath 1 with
  | error fault => simp [(mediaPath_eq_error first).2 segment, Except.toOption]
  | ok path =>
      cases filled : chosen.mediaPath segment with
      | ok other => simp [Except.toOption]
      | error fault => simp [(mediaPath_eq_error filled).2 1] at first

namespace Streamer

variable {manifest : Manifest} {manifestUrl : String} {choose : Selector} {video : VideoSet}
  {streamer after : Streamer} {choices : List Nat} {requests : List SegmentRequest}

theorem shareInitial_cases {index place : Nat} {url : String}
    (found : streamer.shareInitial index url = (place, after)) :
    (streamer.shared = some (index, place) ∧ after = streamer) ∨
      ((∀ last ∈ streamer.shared, last.1 ≠ index) ∧ place = streamer.fetches.length ∧
        after = { streamer with
          shared := some (index, place)
          fetches := streamer.fetches ++ [url] }) := by
  unfold shareInitial at found
  split at found
  · rename_i last other shared
    split at found
    · rename_i same
      simp only [Prod.mk.injEq] at found
      left
      rw [← found.2, ← found.1, ← same]
      exact ⟨shared, rfl⟩
    · rename_i different
      simp only [Prod.mk.injEq] at found
      right
      simp [shared, different, ← found.1, ← found.2]
  · rename_i shared
    simp only [Prod.mk.injEq] at found
    right
    simp [shared, ← found.1, ← found.2]

theorem shareInitial_keeps {index place : Nat} {url : String}
    (found : streamer.shareInitial index url = (place, after)) :
    after.tile = streamer.tile ∧ after.tileIndex = streamer.tileIndex ∧
      after.asked = streamer.asked ∧ after.nextSegment = streamer.nextSegment ∧
      streamer.fetches <+: after.fetches := by
  rcases shareInitial_cases found with ⟨_, rfl⟩ | ⟨_, _, rfl⟩
  · exact ⟨rfl, rfl, rfl, rfl, List.prefix_rfl⟩
  · exact ⟨rfl, rfl, rfl, rfl, List.prefix_append _ _⟩

theorem tileIndex_of_request {choose : Selector} {cancelled : Bool}
    {result : Except Failure SegmentRequest}
    (made : streamer.request manifest manifestUrl choose cancelled = (result, after)) :
    after.tileIndex = streamer.tileIndex := by
  unfold request at made
  split at made
  · exact (Prod.mk.inj made).2 ▸ rfl
  · split at made
    · exact (Prod.mk.inj made).2 ▸ rfl
    · dsimp only at made
      split at made
      · exact (Prod.mk.inj made).2 ▸ rfl
      · split at made
        · exact (Prod.mk.inj made).2 ▸ rfl
        · unfold fetchSegment at made
          dsimp only at made
          split at made
          · obtain ⟨_, rfl⟩ := Prod.mk.inj made
            exact (shareInitial_keeps rfl).2.1
          · obtain ⟨_, rfl⟩ := Prod.mk.inj made
            exact (shareInitial_keeps rfl).2.1

theorem Answered.keeps {choice? : Option Nat} {result : Except Failure SegmentRequest}
    (answered : Answered manifestUrl video streamer choice? result after) :
    after.tile = streamer.tile ∧ after.tileIndex = streamer.tileIndex ∧
      streamer.fetches <+: after.fetches := by
  cases answered with
  | aborted | gaveUp => exact ⟨rfl, rfl, List.prefix_rfl⟩
  | unspelled _ shared _ =>
      obtain ⟨tile, tileIndex, _, _, grown⟩ := shareInitial_keeps shared
      exact ⟨tile, tileIndex, grown⟩
  | granted _ shared _ _ =>
      obtain ⟨tile, tileIndex, _, _, grown⟩ := shareInitial_keeps shared
      exact ⟨tile, tileIndex, grown.trans (List.prefix_append _ _)⟩

theorem Answered.nextSegment_of_error {choice? : Option Nat} {failure : Failure}
    (answered : Answered manifestUrl video streamer choice? (.error failure) after) :
    after.nextSegment = streamer.nextSegment := by
  cases answered with
  | aborted | gaveUp => rfl
  | unspelled _ shared _ =>
      obtain ⟨_, _, _, nextSegment, _⟩ := shareInitial_keeps shared
      exact nextSegment

theorem request_answered (placed : manifest.videoSet streamer.tile = .ok video)
    (represented : video.representations ≠ []) {cancelled : Bool}
    {result : Except Failure SegmentRequest}
    (made : streamer.request manifest manifestUrl choose cancelled = (result, after)) :
    Answered manifestUrl video streamer (streamer.choice? choose video cancelled) result after := by
  unfold request at made
  split at made
  · rename_i stopped
    obtain ⟨rfl, rfl⟩ := Prod.mk.inj made
    rw [stopped]
    exact .aborted
  · rename_i going
    rw [placed] at made
    dsimp only at made
    rw [choice?, if_neg going]
    cases chose : choose streamer.tile streamer.asked video.representations.length with
    | error fault =>
        rw [chose] at made
        obtain ⟨rfl, rfl⟩ := Prod.mk.inj made
        exact .gaveUp
    | ok choice =>
        rw [chose] at made
        dsimp only at made
        have inside : clampIndex choice video.representations.length <
            video.representations.length := by
          have positive := List.length_pos_iff.mpr represented
          rw [clampIndex]
          omega
        have found := List.getElem?_eq_getElem inside
        have spelled := VideoSet.spells_iff found streamer.nextSegment
        rw [VideoSet.representation, elementAt, found] at made
        simp only [fetchSegment] at made
        generalize video.representations[clampIndex choice video.representations.length] = chosen
          at found spelled made
        cases filled : chosen.mediaPath streamer.nextSegment with
        | error fault =>
            rw [filled] at made
            obtain ⟨rfl, rfl⟩ := Prod.mk.inj made
            obtain ⟨rfl, _⟩ := mediaPath_eq_error filled
            refine .unspelled found rfl ?_
            rw [← Bool.not_eq_true]
            change ¬video.spells (clampIndex choice video.representations.length) = true
            rw [spelled, filled]
            simp
        | ok path =>
            rw [filled] at made
            obtain ⟨rfl, rfl⟩ := Prod.mk.inj made
            exact .granted found rfl (spelled.mpr ⟨path, filled⟩) filled

structure InStep (manifestUrl : String) (video : VideoSet) (choices : List Nat)
    (requests : List SegmentRequest) (streamer : Streamer) : Prop where
  tile : streamer.tile = video.tile
  nextSegment : streamer.nextSegment = requests.length + 1
  numbered : requests.map (·.segment) = List.range' 1 requests.length
  trace : streamer.trace = choices.drop (choices.length - traceCapacity)
  inside : ∀ index ∈ choices, index < video.representations.length
  returned : requests.map (·.representation) = choices.filter video.spells
  sharing : ∀ index place, streamer.shared = some (index, place) →
    ∃ chosen, video.representations[index]? = some chosen ∧
      streamer.fetches[place]? = some (Url.resolve manifestUrl chosen.initialization)
  own : ∀ request ∈ requests, IsOwn manifestUrl video streamer.fetches request
  together : (∀ index ∈ choices, video.spells index = true) →
    streamer.shared = requests.getLast?.map (fun last => (last.representation, last.initial)) ∧
      Fetched requests streamer.fetches.length

theorem IsOwn.grow {fetches longer : List String} {request : SegmentRequest}
    (own : IsOwn manifestUrl video fetches request) (grown : fetches <+: longer) :
    IsOwn manifestUrl video longer request := by
  obtain ⟨chosen, path, found, filled, initial, media⟩ := own
  exact ⟨chosen, path, found, filled, getElem?_longer grown initial,
    getElem?_longer grown media⟩

theorem inStep_start (tileIndex : Nat) :
    InStep manifestUrl video [] [] (.start video.tile tileIndex) :=
  { tile := rfl
    nextSegment := rfl
    numbered := rfl
    trace := rfl
    inside := fun _ member => absurd member List.not_mem_nil
    returned := rfl
    sharing := fun _ _ shared => nomatch shared
    own := fun _ member => absurd member List.not_mem_nil
    together := fun _ => ⟨rfl, .none⟩ }

theorem remember_trace (streamer : Streamer) (index : Nat)
    (trace : streamer.trace = choices.drop (choices.length - traceCapacity)) :
    (streamer.remember index).trace =
      (choices ++ [index]).drop ((choices ++ [index]).length - traceCapacity) := by
  have kept : streamer.trace ++ [index] =
      (choices ++ [index]).drop (choices.length - traceCapacity) := by
    rw [trace, List.drop_append_of_le_length (Nat.sub_le _ _)]
  have same : choices.length - traceCapacity +
      ((choices ++ [index]).length - (choices.length - traceCapacity) - traceCapacity) =
        (choices ++ [index]).length - traceCapacity := by
    rw [List.length_append, List.length_singleton]
    omega
  rw [remember, kept, List.drop_drop, List.length_drop, same]

theorem InStep.shares (inStep : InStep manifestUrl video choices requests streamer)
    {index place : Nat} {chosen : Representation} {sharing : Streamer}
    (found : video.representations[index]? = some chosen)
    (shared : streamer.takeInitial manifestUrl index chosen = (place, sharing)) :
    sharing.tile = video.tile ∧ sharing.nextSegment = requests.length + 1 ∧
      sharing.trace = (choices ++ [index]).drop ((choices ++ [index]).length - traceCapacity) ∧
      streamer.fetches <+: sharing.fetches ∧ sharing.shared = some (index, place) ∧
      sharing.fetches[place]? = some (Url.resolve manifestUrl chosen.initialization) := by
  have trace := remember_trace { streamer with asked := streamer.asked + 1 } index inStep.trace
  rcases shareInitial_cases shared with ⟨same, rfl⟩ | ⟨_, rfl, rfl⟩
  · obtain ⟨other, representation, initial⟩ := inStep.sharing index place same
    obtain rfl : chosen = other := Option.some.inj (found.symm.trans representation)
    exact ⟨inStep.tile, inStep.nextSegment, trace, List.prefix_rfl, same, initial⟩
  · refine ⟨inStep.tile, inStep.nextSegment, ?_, List.prefix_append _ _, rfl,
      List.getElem?_concat_length⟩
    dsimp only
    exact trace

theorem InStep.unspelled (inStep : InStep manifestUrl video choices requests streamer)
    {index place : Nat} {chosen : Representation}
    (found : video.representations[index]? = some chosen)
    (shared : streamer.takeInitial manifestUrl index chosen = (place, after))
    (unspelled : video.spells index = false) :
    InStep manifestUrl video (choices ++ [index]) requests after := by
  obtain ⟨tile, nextSegment, trace, grown, memo, initial⟩ := inStep.shares found shared
  refine {
    tile, nextSegment, trace
    numbered := inStep.numbered
    inside := ?_
    returned := ?_
    sharing := ?_
    own := fun request member => (inStep.own request member).grow grown
    together := ?_ }
  · exact List.forall_mem_append.mpr
      ⟨inStep.inside, List.forall_mem_singleton.mpr (List.getElem?_eq_some_iff.mp found).1⟩
  · rw [inStep.returned, List.filter_append, List.filter_cons_of_neg (by simp [unspelled]),
      List.filter_nil, List.append_nil]
  · intro other at_place same
    rw [memo] at same
    obtain ⟨rfl, rfl⟩ := Prod.mk.inj (Option.some.inj same)
    exact ⟨chosen, found, initial⟩
  · intro spelled
    have also := spelled index (List.mem_append_right _ (List.mem_singleton_self index))
    rw [unspelled] at also
    cases also

/-- A granted request shares the fetch of the last one exactly if it keeps its representation. -/
theorem Fetched.request (fetched : Fetched requests streamer.fetches.length)
    (memo : streamer.shared =
      requests.getLast?.map fun last => (last.representation, last.initial))
    {index place : Nat} {chosen : Representation} {sharing : Streamer}
    (shared : streamer.takeInitial manifestUrl index chosen = (place, sharing)) (segment : Nat) :
    Fetched
      (requests ++ [{
        segment
        representation := index
        initial := place
        media := sharing.fetches.length }])
      (sharing.fetches.length + 1) := by
  rcases shareInitial_cases shared with ⟨same, rfl⟩ | ⟨other, rfl, rfl⟩
  · obtain ⟨last, isLast, held⟩ := Option.map_eq_some_iff.mp (memo.symm.trans same)
    obtain ⟨representation, initial⟩ := Prod.mk.inj held
    exact .stays fetched isLast representation initial.symm rfl
  · have length (url : String) :
        (streamer.fetches ++ [url]).length = streamer.fetches.length + 1 := List.length_append
    dsimp only [remember]
    rw [length]
    refine .changes fetched ?_ rfl rfl
    intro last isLast
    refine other (last.representation, last.initial) ?_
    change _ ∈ streamer.shared
    rw [memo, Option.mem_def.mp isLast]
    rfl

theorem InStep.granted (inStep : InStep manifestUrl video choices requests streamer)
    {index place : Nat} {chosen : Representation} {path : String} {sharing : Streamer}
    (found : video.representations[index]? = some chosen)
    (shared : streamer.takeInitial manifestUrl index chosen = (place, sharing))
    (spelled : video.spells index = true)
    (filled : chosen.mediaPath streamer.nextSegment = .ok path) :
    InStep manifestUrl video (choices ++ [index])
      (requests ++ [{
        segment := streamer.nextSegment
        representation := index
        initial := place
        media := sharing.fetches.length }])
      { sharing with
        fetches := sharing.fetches ++ [Url.resolve manifestUrl path]
        nextSegment := streamer.nextSegment + 1 } := by
  obtain ⟨tile, _, trace, grown, memo, initial⟩ := inStep.shares found shared
  have longer := List.prefix_append sharing.fetches [Url.resolve manifestUrl path]
  refine {
    tile, trace
    nextSegment := ?_
    numbered := ?_
    inside := ?_
    returned := ?_
    sharing := ?_
    own := ?_
    together := ?_ }
  · rw [List.length_append, inStep.nextSegment]
    rfl
  · rw [List.map_append, inStep.numbered, List.length_append, List.length_singleton,
      List.range'_1_concat, inStep.nextSegment, Nat.add_comm 1]
    rfl
  · exact List.forall_mem_append.mpr
      ⟨inStep.inside, List.forall_mem_singleton.mpr (List.getElem?_eq_some_iff.mp found).1⟩
  · rw [List.map_append, inStep.returned, List.filter_append, List.filter_cons_of_pos spelled]
    rfl
  · intro other at_place same
    dsimp only at same
    rw [memo] at same
    obtain ⟨rfl, rfl⟩ := Prod.mk.inj (Option.some.inj same)
    exact ⟨chosen, found, getElem?_longer longer initial⟩
  · refine List.forall_mem_append.mpr ⟨?_, List.forall_mem_singleton.mpr ?_⟩
    · intro request member
      exact (inStep.own request member).grow (grown.trans longer)
    · exact ⟨chosen, path, found, filled, getElem?_longer longer initial,
        List.getElem?_concat_length⟩
  · intro all
    obtain ⟨last, fetched⟩ := inStep.together fun other member =>
      all other (List.mem_append_left _ member)
    dsimp only
    rw [List.getLast?_concat, List.length_append]
    exact ⟨memo, fetched.request last shared streamer.nextSegment⟩

theorem InStep.answered (inStep : InStep manifestUrl video choices requests streamer)
    {choice? : Option Nat} {result : Except Failure SegmentRequest}
    (answered : Answered manifestUrl video streamer choice? result after) :
    InStep manifestUrl video (choices ++ choice?.toList) (requests ++ result.toOption.toList)
      after := by
  cases answered with
  | aborted =>
      simp only [Option.toList_none, Except.toOption, List.append_nil]
      exact inStep
  | gaveUp =>
      simp only [Option.toList_none, Except.toOption, List.append_nil]
      exact { inStep with }
  | unspelled found shared unspelled =>
      simp only [Option.toList_some, Option.toList_none, Except.toOption, List.append_nil]
      exact inStep.unspelled found shared unspelled
  | granted found shared spelled filled =>
      exact inStep.granted found shared spelled filled

theorem Calls.inStep {tileIndex : Nat} (placed : manifest.videoSet video.tile = .ok video)
    (represented : video.representations ≠ [])
    (calls : Calls manifest manifestUrl choose video tileIndex choices requests streamer) :
    InStep manifestUrl video choices requests streamer := by
  induction calls with
  | start => exact inStep_start tileIndex
  | call _ made ih =>
      rw [← ih.tile] at placed
      exact ih.answered (request_answered placed represented made)

theorem Fetched.initial_lt {count : Nat} (fetched : Fetched requests count) :
    ∀ request ∈ requests, request.initial < count := by
  induction fetched with
  | none => simp
  | changes _ _ initial _ ih =>
      intro request member
      rcases List.mem_append.mp member with earlier | here
      · have less := ih request earlier
        omega
      · obtain rfl := List.mem_singleton.mp here
        omega
  | stays _ isLast _ initial _ ih =>
      intro request member
      rcases List.mem_append.mp member with earlier | here
      · have less := ih request earlier
        omega
      · obtain rfl := List.mem_singleton.mp here
        have less := ih _ (List.mem_of_getLast? isLast)
        omega

/-- Two requests share their initialization segment exactly if no request from the one to the other
has another representation. -/
def Shares (requests : List SegmentRequest) (i j : Nat) (first last : SegmentRequest) : Prop :=
  first.initial = last.initial ↔ ∀ k, i ≤ k → k ≤ j → ∀ request ∈ requests[k]?,
    request.representation = first.representation

theorem Shares.self {i : Nat} {first : SegmentRequest} (here : requests[i]? = some first) :
    Shares requests i i first first := by
  refine iff_of_true rfl ?_
  intro k ge le request found
  obtain rfl : k = i := by omega
  rw [here] at found
  rw [← Option.some.inj found]

theorem Shares.append {i j : Nat} {first last : SegmentRequest}
    (shares : Shares requests i j first last) (inside : j < requests.length)
    (request : SegmentRequest) : Shares (requests ++ [request]) i j first last := by
  refine shares.trans ?_
  constructor
  · intro same k ge le other found
    rw [List.getElem?_append_left (by omega)] at found
    exact same k ge le other found
  · intro same k ge le other found
    exact same k ge le other (getElem?_longer (List.prefix_append _ _) found)

theorem shares_concat {request : SegmentRequest}
    (earlier : ∀ (i j : Nat) (first last : SegmentRequest), i ≤ j → requests[i]? = some first →
      requests[j]? = some last → Shares requests i j first last)
    (final : ∀ (i : Nat) (first : SegmentRequest), requests[i]? = some first →
      Shares (requests ++ [request]) i requests.length first request)
    {i j : Nat} {first last : SegmentRequest} (order : i ≤ j)
    (at_first : (requests ++ [request])[i]? = some first)
    (at_last : (requests ++ [request])[j]? = some last) :
    Shares (requests ++ [request]) i j first last := by
  rcases Nat.lt_or_ge j requests.length with inside | beyond
  · rw [List.getElem?_append_left (by omega)] at at_first at_last
    exact (earlier i j first last order at_first at_last).append inside request
  · have bound := (List.getElem?_eq_some_iff.mp at_last).1
    rw [List.length_append, List.length_singleton] at bound
    obtain rfl : j = requests.length := by omega
    obtain rfl : request = last := Option.some.inj (List.getElem?_concat_length.symm.trans at_last)
    rcases Nat.lt_or_eq_of_le order with before | rfl
    · rw [List.getElem?_append_left before] at at_first
      exact final i first at_first
    · obtain rfl : request = first := Option.some.inj (at_last.symm.trans at_first)
      exact .self at_first

theorem Fetched.shares {count : Nat} (fetched : Fetched requests count) {i j : Nat}
    {first last : SegmentRequest} (order : i ≤ j) (at_first : requests[i]? = some first)
    (at_last : requests[j]? = some last) : Shares requests i j first last := by
  induction fetched generalizing i j first last with
  | none => simp at at_first
  | @changes requests count request fetched other initial media ih =>
      refine shares_concat (fun _ _ _ _ => ih) ?_ order at_first at_last
      intro i first at_first
      have bound := (List.getElem?_eq_some_iff.mp at_first).1
      have less := fetched.initial_lt first (List.mem_of_getElem? at_first)
      refine iff_of_false (by omega) ?_
      intro same
      have present : requests.length - 1 < requests.length := by omega
      have previous := List.getElem?_eq_getElem present
      refine other _ (List.getLast?_eq_getElem?.trans previous) ?_
      rw [same requests.length (by omega) (Nat.le_refl _) request List.getElem?_concat_length]
      exact same (requests.length - 1) (by omega) (by omega) _
        (getElem?_longer (List.prefix_append _ _) previous)
  | @stays requests count previous request fetched isLast same initial media ih =>
      refine shares_concat (fun _ _ _ _ => ih) ?_ order at_first at_last
      intro i first at_first
      have bound := (List.getElem?_eq_some_iff.mp at_first).1
      have at_previous := List.getLast?_eq_getElem?.symm.trans isLast
      have earlier := ih (by omega) at_first at_previous
      unfold Shares at earlier ⊢
      rw [initial, earlier]
      constructor
      · intro all k ge le request' found
        rcases Nat.lt_or_eq_of_le le with before | rfl
        · rw [List.getElem?_append_left before] at found
          exact all k ge (by omega) request' found
        · rw [Option.mem_def, List.getElem?_concat_length] at found
          rw [← Option.some.inj found, ← same]
          exact all (requests.length - 1) (by omega) (Nat.le_refl _) previous at_previous
      · intro all k ge le request' found
        exact all k ge (by omega) request' (getElem?_longer (List.prefix_append _ _) found)

theorem InStep.traced (inStep : InStep manifestUrl video choices requests streamer)
    (spelled : ∀ index ∈ choices, video.spells index = true) :
    streamer.trace = (requests.map (·.representation)).drop (requests.length - traceCapacity) ∧
      streamer.trace.getLast? = requests.getLast?.map (·.representation) := by
  have all : requests.map (·.representation) = choices := by
    rw [inStep.returned, List.filter_eq_self.mpr spelled]
  have count : requests.length = choices.length := by
    rw [← all, List.length_map]
  have trace := inStep.trace
  rw [← count, ← all] at trace
  refine ⟨trace, ?_⟩
  rw [trace, List.getLast?_drop, List.length_map, List.getLast?_map]
  split
  · rename_i short
    have none : requests.length = 0 := by
      have positive : 0 < traceCapacity := by decide
      omega
    rw [List.length_eq_zero_iff.mp none]
    rfl
  · rfl

/-- What the calls of a run are answered, in step with the trace, the count and the fetches of the
streamer, and what the next call is answered. A choice whose media paths cannot be written unwinds
after it was traced and its initialization segment fetched; the trace and the fetches are those of
the granted requests if there was none. -/
theorem requests_in_step {document : String} {raster tileIndex : Nat}
    (parsed : Manifest.parse document = .ok manifest)
    (found : manifest.videoSets[raster]? = some video)
    (calls : Calls manifest manifestUrl choose video tileIndex choices requests streamer) :
    (requests.map (·.segment) = List.range' 1 requests.length ∧
      streamer.segmentsRequested = requests.length ∧
      (∀ index ∈ choices, index < video.representations.length) ∧
      streamer.trace = choices.drop (choices.length - traceCapacity) ∧
      requests.map (·.representation) = choices.filter video.spells ∧
      ∀ request ∈ requests, IsOwn manifestUrl video streamer.fetches request) ∧
    ((∀ index ∈ choices, video.spells index = true) →
      streamer.trace =
          (requests.map (·.representation)).drop (requests.length - traceCapacity) ∧
        streamer.trace.getLast? = requests.getLast?.map (·.representation) ∧
        Fetched requests streamer.fetches.length ∧
        ∀ (i j : Nat) (first last : SegmentRequest), i ≤ j → requests[i]? = some first →
          requests[j]? = some last → Shares requests i j first last) ∧
    streamer.request manifest manifestUrl choose true = (.error (.error .aborted), streamer) ∧
    (∀ fault, choose video.tile streamer.asked video.representations.length = .error fault →
      (streamer.request manifest manifestUrl choose false).1 = .error (.fault fault)) ∧
    ∀ choice index, choose video.tile streamer.asked video.representations.length = .ok choice →
      index = min choice (video.representations.length - 1) →
      index < video.representations.length ∧
      (video.spells index = true → ∃ request,
        (streamer.request manifest manifestUrl choose false).1 = .ok request ∧
          request.representation = index) ∧
      (video.spells index = false →
        (streamer.request manifest manifestUrl choose false).1 = .error (.fault .overflow)) := by
  have placed := Manifest.parse_placed parsed
  have represented := placed.represented video (List.mem_of_getElem? found)
  have at_tile := placed.videoSet_tile found
  have inStep := calls.inStep at_tile represented
  have answered : Answered manifestUrl video streamer (streamer.choice? choose video false)
      (streamer.request manifest manifestUrl choose false).1
      (streamer.request manifest manifestUrl choose false).2 :=
    request_answered (inStep.tile ▸ at_tile) represented rfl
  refine ⟨⟨inStep.numbered, ?_, inStep.inside, inStep.trace, inStep.returned, inStep.own⟩, ?_, rfl,
    ?_, ?_⟩
  · rw [segmentsRequested, inStep.nextSegment, Nat.add_sub_cancel]
  · intro spelled
    obtain ⟨trace, last⟩ := inStep.traced spelled
    obtain ⟨_, fetched⟩ := inStep.together spelled
    exact ⟨trace, last, fetched, fun _ _ _ _ => fetched.shares⟩
  · intro fault chose
    rw [← inStep.tile] at chose
    simp only [request, Bool.false_eq_true, ↓reduceIte, inStep.tile ▸ at_tile, chose]
  · rintro choice index chose rfl
    have settled : streamer.choice? choose video false =
        some (min choice (video.representations.length - 1)) := by
      rw [choice?, inStep.tile, chose]
      rfl
    rw [settled] at answered
    generalize (streamer.request manifest manifestUrl choose false).1 = result at answered ⊢
    generalize (streamer.request manifest manifestUrl choose false).2 = after at answered
    cases answered with
    | unspelled representation _ unspelled =>
        refine ⟨(List.getElem?_eq_some_iff.mp representation).1, ?_, fun _ => rfl⟩
        intro spelled
        rw [unspelled] at spelled
        cases spelled
    | granted representation _ spelled _ =>
        refine ⟨(List.getElem?_eq_some_iff.mp representation).1, fun _ => ⟨_, rfl, rfl⟩, ?_⟩
        intro unspelled
        rw [spelled] at unspelled
        cases unspelled

def callEach (manifest : Manifest) (manifestUrl : String) (choose : Selector) (video : VideoSet)
    (run : List Nat × List SegmentRequest × Streamer) (flags : List Bool) :
    List Nat × List SegmentRequest × Streamer :=
  flags.foldl (fun run cancelled =>
    let made := run.2.2.request manifest manifestUrl choose cancelled
    (run.1 ++ (run.2.2.choice? choose video cancelled).toList,
      run.2.1 ++ made.1.toOption.toList, made.2)) run

theorem Calls.callEach {tileIndex : Nat} (run : List Nat × List SegmentRequest × Streamer)
    (calls : Calls manifest manifestUrl choose video tileIndex run.1 run.2.1 run.2.2)
    (flags : List Bool) {after : List Nat × List SegmentRequest × Streamer}
    (called : Streamer.callEach manifest manifestUrl choose video run flags = after) :
    Calls manifest manifestUrl choose video tileIndex after.1 after.2.1 after.2.2 := by
  subst called
  induction flags generalizing run with
  | nil => exact calls
  | cons cancelled flags ih => exact ih _ (.call calls rfl)

def wavering : Selector := .scripted [some 7, some 0, some 0, none]

theorem gallery_requests_in_step :
    ∃ (document : String) (video : VideoSet) (requests : List SegmentRequest) (streamer : Streamer),
      Manifest.parse document = .ok Presentation.gallery.manifest ∧
      Presentation.gallery.manifest.videoSets[1]? = some video ∧
      Calls Presentation.gallery.manifest "http://localhost/gallery.mpd" wavering video 2
        [1, 0, 0, 1] requests streamer ∧
      requests.map (·.initial) = [0, 2, 2, 5] ∧
      streamer.trace = [1, 0, 0, 1] ∧ streamer.segmentsRequested = 4 ∧
      Fetched requests streamer.fetches.length := by
  obtain ⟨document, _, parsed⟩ := Presentation.parse_document Presentation.gallery_fits
  obtain ⟨video, found, requests, streamer, calls, initial, spelled, count⟩ :
      ∃ video, Presentation.gallery.manifest.videoSets[1]? = some video ∧
        ∃ requests streamer,
          Calls Presentation.gallery.manifest "http://localhost/gallery.mpd" wavering video 2
            [1, 0, 0, 1] requests streamer ∧
          requests.map (·.initial) = [0, 2, 2, 5] ∧
          (∀ index ∈ [1, 0, 0, 1], video.spells index = true) ∧
          requests.map (·.representation) = [1, 0, 0, 1] := by
    exact ⟨_, rfl, _, _, .callEach ([], [], _) .start [false, true, false, false, false, false] rfl,
      rfl, List.all_eq_true.mp rfl, rfl⟩
  obtain ⟨⟨_, number, _⟩, inStep, _⟩ := requests_in_step parsed found calls
  obtain ⟨trace, _, fetched, _⟩ := inStep spelled
  have length : requests.length = 4 := by
    rw [← List.length_map (·.representation), count]
    rfl
  rw [count, length] at trace
  exact ⟨document, video, requests, streamer, parsed, found, calls, initial, trace,
    number.trans length, fetched⟩

def wideTile : Declaration where
  root := some []
  title := some "wide"
  sets := [{
    attributes := [("maxWidth", "320"), ("maxHeight", "180"), ("codecs", "hvc1"),
      ("mimeType", "video/mp4")]
    properties := [("urn:mpeg:dash:srd:2014", "0,0,0,1,1,1,1")]
    template := none
    representations := [
      { attributes := [("id", "7"), ("bandwidth", "1200000")]
        template := some [("media", "$Number%065536d$"), ("initialization", "7.mp4")] },
      { attributes := [("id", "8"), ("bandwidth", "2400000")]
        template := some [("media", "8_$Number$.m4s"), ("initialization", "8.mp4")] }] }]

/-- A call that unwinds leaves its choice in the trace and the next one without a shared fetch. -/
theorem unspelled_choice_traced :
    ∃ (manifest : Manifest) (video : VideoSet) (requests : List SegmentRequest)
      (streamer : Streamer),
      Manifest.ofDeclaration wideTile = .ok manifest ∧ manifest.videoSets[0]? = some video ∧
      Calls manifest "http://localhost/wide.mpd" (.scripted [some 1, some 0, some 1]) video 1
        [1, 0, 1] requests streamer ∧
      requests.map (·.representation) = [1, 1] ∧ requests.map (·.initial) = [0, 3] ∧
      streamer.segmentsRequested = 2 ∧ streamer.trace = [1, 0, 1] :=
  ⟨_, _, _, _, rfl, rfl, .callEach ([], [], _) .start [false, false, false] rfl, rfl, rfl, rfl, rfl⟩

end Streamer

end TiledStream
