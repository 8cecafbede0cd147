import TiledStream.Proofs.Media.Header
import TiledStream.Proofs.Media.Source

/-! The decoder over bytes that anyone may have put: it walks over boxes as a writer would have put
them, and stops with an error where there is none. -/

namespace TiledStream

def Engine.untilFailure (engine : Engine) : (rounds : Nat) → engine.State → Record
  | 0, _ => []
  | rounds + 1, decoder =>
    match (engine.send decoder).1 with
    | .error failure => [.error failure]
    | .ok frames => .ok frames :: engine.untilFailure rounds (engine.send decoder).2

theorem Engine.mem_untilFailure {engine : Engine} {decoder : engine.State} {rounds : Nat}
    {round : Except Failure (List Frame)} (member : round ∈ engine.untilFailure rounds decoder) :
    ∃ earlier, round = (engine.send (engine.afterRounds earlier decoder)).1 := by
  induction rounds generalizing decoder with
  | zero => simp [untilFailure] at member
  | succ rounds ih =>
      rw [untilFailure] at member
      rcases sent : (engine.send decoder).1 with failure | frames
      · simp only [sent, List.mem_singleton] at member
        exact ⟨0, member.trans sent.symm⟩
      · simp only [sent, List.mem_cons] at member
        rcases member with rfl | member
        · exact ⟨0, sent.symm⟩
        · obtain ⟨earlier, same⟩ := ih member
          exact ⟨earlier + 1, same⟩

namespace Fragment

variable {cursor : Cursor}

/-- How the way to the next payload ends, for a walk that nothing bounds. -/
inductive Finds : Cursor → Except Corruption (Option Bytes) × Cursor → Prop
  | ended {cursor after : Cursor} (read : readHeader cursor = (.ok none, after)) :
      Finds cursor (.ok none, after)
  | corrupted {cursor after : Cursor} {corruption : Corruption}
      (read : readHeader cursor = (.error corruption, after)) :
      Finds cursor (.error corruption, after)
  | found {cursor between after : Cursor} {header : Header} {payload : Bytes}
      (read : readHeader cursor = (.ok (some header), between)) (media : header.kind = mediaData)
      (taken : between.readExact header.payload = (some payload, after)) :
      Finds cursor (.ok (some payload), after)
  | short {cursor between after : Cursor} {header : Header}
      (read : readHeader cursor = (.ok (some header), between)) (media : header.kind = mediaData)
      (taken : between.readExact header.payload = (none, after)) :
      Finds cursor (.error .short, after)
  | passed {cursor between : Cursor} {header : Header}
      {result : Except Corruption (Option Bytes) × Cursor}
      (read : readHeader cursor = (.ok (some header), between)) (other : header.kind ≠ mediaData)
      (following : Finds (between.skip header.payload) result) : Finds cursor result

/-- Each box that is passed over takes eight bytes at least, so the steps suffice. -/
theorem nextPayload_finds {steps : Nat} (enough : cursor.remaining < 8 * steps) :
    Finds cursor (nextPayload cursor steps) := by
  induction steps generalizing cursor with
  | zero => omega
  | succ steps ih =>
      have came := headerRead cursor
      rw [nextPayload]
      rcases read : readHeader cursor with ⟨_ | _ | header, between⟩
      · exact .corrupted read
      · exact .ended read
      rw [read] at came
      obtain _ | _ | ⟨box, following, ahead, _⟩ := came
      by_cases media : box.kind = mediaData
      · simp only [if_pos media]
        rcases taken : (cursor.skip box.header.length).readExact box.payload.length with
          ⟨_ | payload, after⟩
        · exact .short read media taken
        · exact .found read media taken
      · simp only [if_neg media]
        obtain ⟨size, some⟩ := box_inside ahead
        refine .passed read media (ih ?_)
        change ((cursor.skip box.header.length).skip box.payload.length).remaining < _
        rw [Cursor.skip_skip, Cursor.remaining_skip]
        omega

theorem Finds.unique {first second : Except Corruption (Option Bytes) × Cursor}
    (one : Finds cursor first) (other : Finds cursor second) : first = second := by
  induction one with
  | ended read => cases other <;> simp_all
  | corrupted read => cases other <;> simp_all
  | found read media taken => cases other <;> simp_all
  | short read media taken => cases other <;> simp_all
  | passed read otherKind _ ih =>
      cases other with
      | passed again _ following =>
          rw [read, Prod.mk.injEq, Except.ok.injEq, Option.some.injEq] at again
          obtain ⟨rfl, rfl⟩ := again
          exact ih following
      | _ => simp_all

/-- Boxes that some bytes begin with, and what follows them. A box that leaves its size open takes all
that is left. -/
inductive Walked : Bytes → List Box → Bytes → Prop
  | here (bytes : Bytes) : Walked bytes [] bytes
  | box {box : Box} {bytes following : Bytes} {boxes : List Box}
      (alone : box.form = .toEnd → bytes = []) (others : Walked bytes boxes following) :
      Walked (box.write ++ bytes) (box :: boxes) following

section Walked

variable {bytes between following : Bytes} {boxes more : List Box}

theorem Walked.append (first : Walked bytes boxes between) (second : Walked between more following) :
    Walked bytes (boxes ++ more) following := by
  induction first with
  | here bytes => exact second
  | box alone _ ih => exact .box alone (ih second)

theorem Walked.bytes_eq (walked : Walked bytes boxes following) :
    bytes = write boxes ++ following := by
  induction walked with
  | here bytes => rfl
  | box alone _ ih => rw [ih, write, write, List.flatMap_cons, List.append_assoc]

theorem Walked.openAtEnd (walked : Walked bytes boxes following) : OpenAtEnd boxes := by
  induction walked with
  | here bytes => exact fun box member => nomatch member
  | @box box bytes following boxes alone others ih =>
      intro other member
      cases boxes with
      | nil => simp at member
      | cons next boxes =>
          rw [List.dropLast_cons_cons, List.mem_cons] at member
          rcases member with rfl | member
          · intro form
            have size := (List.prefix_append (write (next :: boxes)) following).length_le
            have some := length_le_write (next :: boxes)
            rw [← others.bytes_eq, alone form] at size
            simp only [List.length_nil, List.length_cons] at size some
            omega
          · exact ih other member

@[simp] theorem mediaPayloads_append (boxes more : List Box) :
    mediaPayloads (boxes ++ more) = mediaPayloads boxes ++ mediaPayloads more := by
  simp [mediaPayloads]

end Walked

structure Slice where
  start : Nat
  size : Nat
  deriving DecidableEq

def Slice.stop (slice : Slice) : Nat := slice.start + slice.size

def Slice.of (slice : Slice) (bytes : Bytes) : Bytes := (bytes.drop slice.start).take slice.size

def mediaSlices (offset : Nat) : List Box → List Slice
  | [] => []
  | box :: boxes =>
    let others := mediaSlices (offset + box.write.length) boxes
    if box.isMedia then
      { start := offset + box.header.length, size := box.payload.length } :: others
    else others

section Slices

variable {offset : Nat} {boxes : List Box}

theorem mediaSlices_bounds {slice : Slice} (member : slice ∈ mediaSlices offset boxes) :
    offset < slice.start ∧ slice.stop ≤ offset + (write boxes).length := by
  induction boxes generalizing offset with
  | nil => simp [mediaSlices] at member
  | cons box boxes ih =>
      have positive : 0 < box.header.length := by
        simp only [Box.header, List.length_append, length_numeral]
        omega
      have size : box.write.length = box.header.length + box.payload.length := List.length_append
      have later (inside : slice ∈ mediaSlices (offset + box.write.length) boxes) :
          offset < slice.start ∧ slice.stop ≤ offset + (write (box :: boxes)).length := by
        have bounds := ih inside
        rw [write, List.flatMap_cons, List.length_append, ← write]
        omega
      rw [mediaSlices] at member
      by_cases media : box.isMedia
      · rw [if_pos media, List.mem_cons] at member
        rcases member with rfl | member
        · simp only [Slice.stop, write, List.flatMap_cons, List.length_append]
          omega
        · exact later member
      · rw [if_neg media] at member
        exact later member

theorem mediaSlices_pairwise (offset : Nat) (boxes : List Box) :
    (mediaSlices offset boxes).Pairwise (fun earlier later => earlier.stop < later.start) := by
  induction boxes generalizing offset with
  | nil => exact .nil
  | cons box boxes ih =>
      rw [mediaSlices]
      by_cases media : box.isMedia
      · rw [if_pos media]
        refine .cons (fun later member => ?_) (ih _)
        have beyond := (mediaSlices_bounds member).1
        rw [Box.write, List.length_append] at beyond
        simp only [Slice.stop]
        omega
      · rw [if_neg media]
        exact ih _

theorem mediaSlices_of {before following : Bytes} (length : before.length = offset) :
    (mediaSlices offset boxes).map (·.of (before ++ (write boxes ++ following))) =
      mediaPayloads boxes := by
  induction boxes generalizing offset before with
  | nil => rfl
  | cons box boxes ih =>
      have split : before ++ (write (box :: boxes) ++ following) =
          (before ++ box.write) ++ (write boxes ++ following) := by
        rw [write, List.flatMap_cons, ← write]
        simp only [List.append_assoc]
      have others : (mediaSlices (offset + box.write.length) boxes).map
          (·.of (before ++ box.write ++ (write boxes ++ following))) = mediaPayloads boxes :=
        ih (by rw [List.length_append, length])
      have here : Slice.of { start := offset + box.header.length, size := box.payload.length }
          ((before ++ box.write) ++ (write boxes ++ following)) = box.payload := by
        have skipped : offset + box.header.length = (before ++ box.header).length := by
          rw [List.length_append, length]
        rw [Slice.of, Box.write, ← List.append_assoc before, List.append_assoc _ box.payload,
          skipped, List.drop_left, List.take_left]
      rw [split, mediaSlices]
      by_cases media : box.isMedia
      · rw [if_pos media, List.map_cons, here, others]
        simp [mediaPayloads, media]
      · rw [if_neg media, others]
        simp [mediaPayloads, media]

end Slices

def payloadOf : Except Corruption (Option Bytes) → List Bytes
  | .ok found => found.toList
  | .error _ => []

theorem Finds.advances {result : Except Corruption (Option Bytes) × Cursor}
    (finds : Finds cursor result) : cursor.Advances result.2 := by
  have header {cursor between : Cursor} {read : Except Corruption (Option Header)}
      (same : readHeader cursor = (read, between)) : cursor.Advances between := by
    have moved := (headerRead cursor).advances
    rwa [same] at moved
  induction finds with
  | ended read => exact header read
  | corrupted read => exact header read
  | @found cursor between after head payload read media taken =>
      have moved := between.advances_readExact head.payload
      rw [taken] at moved
      exact (header read).trans moved
  | @short cursor between after head read media taken =>
      have moved := between.advances_readExact head.payload
      rw [taken] at moved
      exact (header read).trans moved
  | passed read other _ ih =>
      exact ((header read).trans ⟨_, payload_inside read, rfl⟩).trans ih

theorem Finds.walked {result : Except Corruption (Option Bytes) × Cursor}
    (finds : Finds cursor result) :
    ∃ boxes following, Walked cursor.rest boxes following ∧
      mediaPayloads boxes = payloadOf result.1 ∧
      (∀ found, result.1 = .ok found → result.2.rest = following) ∧
      (result.1 = .ok none → following = []) := by
  induction finds with
  | @ended cursor after read =>
      have came := headerRead cursor
      rw [read] at came
      cases came with
      | nothing ended =>
          refine ⟨[], cursor.rest, .here _, rfl, fun _ _ => rfl, fun _ => ended⟩
  | @corrupted cursor after corruption read =>
      exact ⟨[], cursor.rest, .here _, rfl, by simp, by simp⟩
  | @found cursor between after header payload read media taken =>
      have came := headerRead cursor
      rw [read] at came
      obtain _ | _ | ⟨box, following, ahead, alone⟩ := came
      have at_payload : (cursor.skip box.header.length).rest = box.payload ++ following := by
        rw [Cursor.rest_skip, ahead, Box.write, List.append_assoc, List.drop_left]
      obtain ⟨whole, behind⟩ := Cursor.readExact_append at_payload rfl
      rw [taken, Prod.mk.injEq, Option.some.injEq] at whole
      obtain ⟨rfl, rfl⟩ := whole
      refine ⟨[box], following, ?_, ?_, fun _ _ => behind, by simp⟩
      · rw [ahead]
        exact .box alone (.here following)
      · simp [mediaPayloads, Box.isMedia, payloadOf, show box.kind = mediaData from media]
  | @short cursor between after header read media taken =>
      exact ⟨[], cursor.rest, .here _, rfl, by simp, by simp⟩
  | @passed cursor between header result read other _ ih =>
      have came := headerRead cursor
      rw [read] at came
      obtain _ | _ | ⟨box, following, ahead, alone⟩ := came
      have behind : ((cursor.skip box.header.length).skip box.payload.length).rest = following := by
        rw [Cursor.skip_skip, Cursor.rest_skip, ahead, Box.write, ← List.length_append,
          List.drop_left]
      obtain ⟨boxes, last, walked, payloads, reached, stopped⟩ := ih
      rw [behind] at walked
      refine ⟨box :: boxes, last, ?_, ?_, reached, stopped⟩
      · rw [ahead]
        exact .box alone walked
      · rw [← payloads]
        simp [mediaPayloads, Box.isMedia, show box.kind ≠ mediaData from other]

section Rounds

variable {walk : Walk}

theorem badResponse_of_open {error : StreamError} (fails : openSegment cursor = .error error) :
    ∃ description, error = .badResponse description := by
  unfold openSegment at fails
  split at fails
  · exact ⟨_, (Except.error.inj fails).symm⟩
  · exact ⟨_, (Except.error.inj fails).symm⟩
  · split at fails
    · simp at fails
    · exact ⟨_, (Except.error.inj fails).symm⟩

theorem badResponse_of_send {error : StreamError} (fails : (send walk).1 = .error error) :
    ∃ description, error = .badResponse description := by
  unfold send at fails
  split at fails
  · simp at fails
  · split at fails
    · exact ⟨_, (Except.error.inj fails).symm⟩
    · simp at fails
    · simp at fails

theorem orStreamError_fails {α : Type} {result : Except StreamError α} {failure : Failure}
    (fails : orStreamError result = .error failure) :
    ∃ error, result = .error error ∧ failure = .error error := by
  cases result with
  | ok value => simp [orStreamError] at fails
  | error error => exact ⟨error, rfl, (Except.error.inj fails).symm⟩

theorem openSegment_eq_ok (opened : openSegment cursor = .ok walk) :
    ∃ header after, readHeader cursor = (.ok (some header), after) ∧ header.kind ∈ leading ∧
      walk = { cursor := { cursor with position := 0 }, flushed := false } := by
  unfold openSegment at opened
  rcases read : readHeader cursor with ⟨_ | _ | header, after⟩
  · simp [read] at opened
  · simp [read] at opened
  · simp only [read] at opened
    by_cases leads : leading.contains header.kind
    · rw [if_pos leads] at opened
      exact ⟨header, after, rfl, List.contains_iff_mem.mp leads, (Except.ok.inj opened).symm⟩
    · rw [if_neg leads] at opened
      simp at opened

theorem send_walked (going : walk.flushed = false) :
    ∃ boxes following, Walked walk.cursor.rest boxes following ∧
      walk.cursor.Advances (send walk).2.cursor ∧
      Record.frames [orStreamError (send walk).1] =
        (mediaPayloads boxes).map (Frame.unnumbered 0 0) ∧
      ((∃ frames, (send walk).1 = .ok frames) → (send walk).2.cursor.rest = following ∧
        ((send walk).2.flushed = true → following = [])) := by
  have enough : walk.cursor.remaining < 8 * (walk.cursor.remaining + 1) := by omega
  have finds := nextPayload_finds enough
  have advances := finds.advances
  obtain ⟨boxes, following, walked, payloads, reached, stopped⟩ := finds.walked
  have live : ¬walk.flushed = true := by simp [going]
  rcases ran : nextPayload walk.cursor (walk.cursor.remaining + 1) with
    ⟨corruption | _ | payload, after⟩
  all_goals
    rw [ran] at advances payloads reached stopped
    simp only [send, if_neg live, ran]
    refine ⟨boxes, following, walked, advances, by rw [payloads]; rfl, ?_⟩
  · rintro ⟨frames, returned⟩
    cases returned
  · exact fun _ => ⟨reached none rfl, fun _ => stopped rfl⟩
  · exact fun _ => ⟨reached (some payload) rfl, fun flushed => absurd flushed live⟩

theorem advances_afterRounds (walk : Walk) (rounds : Nat) :
    walk.cursor.Advances (engine.afterRounds rounds walk : Walk).cursor := by
  induction rounds generalizing walk with
  | zero => exact .refl walk.cursor
  | succ rounds ih =>
      change walk.cursor.Advances (engine.afterRounds rounds (send walk).2 : Walk).cursor
      by_cases flushed : walk.flushed = true
      · rw [send_flushed flushed]
        exact ih walk
      · obtain ⟨_, _, _, moved, _⟩ := send_walked (Bool.eq_false_iff.mpr flushed)
        exact moved.trans (ih _)

/-- Up to the first failure rounds lead over whole boxes and return what these hold of media data, and
without a failure over all of them before the decoder is flushed. -/
theorem untilFailure_walked (settled : walk.flushed = true → walk.cursor.rest = []) (rounds : Nat) :
    ∃ boxes following, Walked walk.cursor.rest boxes following ∧
      Record.frames (engine.untilFailure rounds walk) =
        (mediaPayloads boxes).map (Frame.unnumbered 0 0) ∧
      ((∀ round ∈ engine.untilFailure rounds walk, ∃ frames, round = .ok frames) →
        engine.isFlushed (engine.afterRounds rounds walk) = true → following = []) := by
  induction rounds generalizing walk with
  | zero => exact ⟨[], _, .here _, rfl, fun _ flushed => settled flushed⟩
  | succ rounds ih =>
      by_cases flushed : walk.flushed = true
      · -- A flushed decoder stays as it is, and its rounds return nothing.
        obtain ⟨boxes, following, walked, frames, stopped⟩ := ih settled
        have same : engine.untilFailure (rounds + 1) walk =
            .ok [] :: engine.untilFailure rounds walk := by
          simp only [Engine.untilFailure, engine, send_flushed flushed, orStreamError]
        have state : engine.afterRounds (rounds + 1) walk = engine.afterRounds rounds walk := by
          rw [afterRounds_flushed flushed, afterRounds_flushed flushed]
        refine ⟨boxes, following, walked, ?_, ?_⟩
        · rw [same]
          exact frames
        · rw [same, state]
          exact fun succeeded => stopped fun round member => succeeded round (.tail _ member)
      obtain ⟨passed, between, walked, _, frames, returned⟩ :=
        send_walked (Bool.eq_false_iff.mpr flushed)
      rcases sent : (send walk).1 with error | found
      · have same : engine.untilFailure (rounds + 1) walk = [.error (.error error)] := by
          simp only [Engine.untilFailure, engine, sent, orStreamError]
        rw [sent] at frames
        refine ⟨passed, between, walked, ?_, ?_⟩
        · rw [same]
          exact frames
        · intro succeeded
          obtain ⟨frames, none⟩ := succeeded _ (by rw [same]; exact .head _)
          exact nomatch none
      · have same : engine.untilFailure (rounds + 1) walk =
            .ok found :: engine.untilFailure rounds (send walk).2 := by
          simp only [Engine.untilFailure, engine, sent, orStreamError]
        obtain ⟨reached, ended⟩ := returned ⟨found, sent⟩
        rw [sent] at frames
        have settledAfter (now : (send walk).2.flushed = true) : (send walk).2.cursor.rest = [] := by
          rw [reached, ended now]
        obtain ⟨boxes, following, further, others, stopped⟩ := ih settledAfter
        rw [reached] at further
        refine ⟨passed ++ boxes, following, walked.append further, ?_, ?_⟩
        · rw [same, ← List.singleton_append, Record.frames_append, others, mediaPayloads_append,
            List.map_append, ← frames]
          rfl
        · intro succeeded
          rw [same] at succeeded
          exact stopped fun round member => succeeded round (.tail _ member)

end Rounds

section Segments

variable {initial media : Bytes} {concurrency rounds : Nat} {walk : Walk}

theorem walk_of_opened
    (opened : engine.openSegment concurrency (Cursor.start initial media) = .ok walk) :
    openSegment (Cursor.start initial media) = .ok walk ∧
      walk = { cursor := Cursor.start initial media, flushed := false } := by
  change orStreamError (openSegment (Cursor.start initial media)) = .ok walk at opened
  rcases plain : openSegment (Cursor.start initial media) with error | first
  · simp [plain, orStreamError] at opened
  · obtain rfl : first = walk := by simpa [plain, orStreamError] using opened
    obtain ⟨_, _, _, _, same⟩ := openSegment_eq_ok plain
    exact ⟨rfl, same⟩

theorem mediaSlices_walked {bytes following : Bytes} {boxes : List Box}
    (walked : Walked bytes boxes following) :
    (mediaSlices 0 boxes).map (·.of bytes) = mediaPayloads boxes := by
  rw [walked.bytes_eq]
  exact @mediaSlices_of 0 boxes [] following rfl

theorem written_of_flushed
    (opened : engine.openSegment concurrency (Cursor.start initial media) = .ok walk)
    (succeeded : ∀ round ∈ engine.untilFailure rounds walk, ∃ frames, round = .ok frames)
    (flushed : engine.isFlushed (engine.afterRounds rounds walk) = true) :
    ∃ boxes, OpenAtEnd boxes ∧ initial ++ media = write boxes ∧
      ∃ first ∈ boxes.head?, first.kind ∈ leading := by
  obtain ⟨plain, rfl⟩ := walk_of_opened opened
  obtain ⟨header, after, read, leads, _⟩ := openSegment_eq_ok plain
  have settled (flushed : ({ cursor := Cursor.start initial media, flushed := false } : Walk).flushed) :
      (Cursor.start initial media).rest = [] :=
    nomatch flushed
  obtain ⟨boxes, following, walked, _, stopped⟩ := untilFailure_walked settled rounds
  obtain rfl := stopped succeeded flushed
  have ahead : (Cursor.start initial media).rest = write boxes := by
    rw [← List.append_nil (write boxes), ← walked.bytes_eq]
  refine ⟨boxes, walked.openAtEnd, ahead, ?_⟩
  cases boxes with
  | nil =>
      have nothing : (Cursor.start initial media).remaining = 0 := by
        rw [← Cursor.length_rest, ahead]
        rfl
      rw [readHeader, if_pos nothing] at read
      simp at read
  | cons box boxes =>
      have first := readHeader_written ahead walked.openAtEnd.head
      rw [read, Prod.mk.injEq, Except.ok.injEq, Option.some.injEq] at first
      rw [first.1] at leads
      exact ⟨box, rfl, leads⟩

theorem flushed_of_written {boxes : List Box} (ends : OpenAtEnd boxes)
    (split : initial ++ media = write boxes) (leads : ∃ first ∈ boxes.head?, first.kind ∈ leading) :
    ∃ walk : Walk, engine.openSegment concurrency (Cursor.start initial media) = .ok walk ∧
      ∃ rounds, (∀ round ∈ engine.untilFailure rounds walk, ∃ frames, round = .ok frames) ∧
        engine.isFlushed (engine.afterRounds rounds walk) = true := by
  obtain ⟨walk, opened, holds⟩ := openSegment_written ends leads split
  refine ⟨walk, ?_, (mediaPayloads boxes).length + 1, ?_, ?_⟩
  · change orStreamError (openSegment (Cursor.start initial media)) = .ok walk
    rw [opened]
    rfl
  · intro round member
    obtain ⟨earlier, rfl⟩ := Engine.mem_untilFailure member
    exact ⟨_, (holds.afterRounds earlier).1⟩
  · rw [(holds.afterRounds _).2]
    exact decide_eq_true (Nat.lt_succ_self _)

end Segments

/-- Whatever bytes a segment is of, its decoder takes them apart without a fault and fails with a bad
response at most; no payload that it makes room for is larger than what remains, and the walk to the
next one ends. Up to the first failure its frames are slices of the bytes, one after the other, each
the payload of a media data box that a walk over whole boxes leads to. It is flushed without a failure
exactly if the bytes are boxes as a writer puts them, of which the first leads. -/
theorem arbitrary_bytes_walked (initial media : Bytes) (concurrency : Nat) :
    (∀ failure, engine.openSegment concurrency (Cursor.start initial media) = .error failure →
      ∃ description, failure = .error (.badResponse description)) ∧
    (∀ walk : Walk, engine.openSegment concurrency (Cursor.start initial media) = .ok walk →
      ∀ rounds,
        (∀ failure, (engine.send (engine.afterRounds rounds walk)).1 = .error failure →
          ∃ description, failure = .error (.badResponse description)) ∧
        (Cursor.start initial media).Advances (engine.afterRounds rounds walk : Walk).cursor ∧
        ∃ boxes following, Walked (initial ++ media) boxes following ∧
          Record.frames (engine.untilFailure rounds walk) =
            (mediaSlices 0 boxes).map fun slice =>
              Frame.unnumbered 0 0 (slice.of (initial ++ media))) ∧
    (∀ boxes following, Walked (initial ++ media) boxes following →
      (mediaSlices 0 boxes).map (·.of (initial ++ media)) = mediaPayloads boxes ∧
      (mediaSlices 0 boxes).Pairwise (fun earlier later => earlier.stop < later.start) ∧
      ∀ slice ∈ mediaSlices 0 boxes, slice.stop ≤ (initial ++ media).length) ∧
    (∀ cursor result, Finds cursor result ↔
      nextPayload cursor (cursor.remaining + 1) = result) ∧
    (∀ cursor header after, readHeader cursor = (.ok (some header), after) →
      header.payload ≤ after.remaining) ∧
    ((initial ++ media).length < 2 ^ 63 →
      ∀ cursor, (Cursor.start initial media).Advances cursor → Guarded cursor) ∧
    ((∃ walk : Walk, engine.openSegment concurrency (Cursor.start initial media) = .ok walk ∧
      ∃ rounds, (∀ round ∈ engine.untilFailure rounds walk, ∃ frames, round = .ok frames) ∧
        engine.isFlushed (engine.afterRounds rounds walk) = true) ↔
      ∃ boxes, OpenAtEnd boxes ∧ initial ++ media = write boxes ∧
        ∃ first ∈ boxes.head?, first.kind ∈ leading) := by
  refine ⟨?_, ?_, ?_, ?_, fun cursor header after => payload_inside, ?_, ?_⟩
  · intro failure fails
    obtain ⟨error, plain, rfl⟩ := orStreamError_fails fails
    obtain ⟨description, rfl⟩ := badResponse_of_open plain
    exact ⟨description, rfl⟩
  · intro walk opened rounds
    obtain ⟨_, same⟩ := walk_of_opened opened
    have moved := advances_afterRounds walk rounds
    have settled (flushed : walk.flushed = true) : walk.cursor.rest = [] := by
      simp [same] at flushed
    obtain ⟨boxes, following, walked, frames, _⟩ := untilFailure_walked settled rounds
    rw [same] at moved walked
    refine ⟨?_, ?_, boxes, following, walked, ?_⟩
    · intro failure fails
      obtain ⟨error, plain, rfl⟩ := orStreamError_fails fails
      obtain ⟨description, rfl⟩ := badResponse_of_send plain
      exact ⟨description, rfl⟩
    · rwa [same]
    · rw [frames, ← mediaSlices_walked walked, List.map_map]
      rfl
  · intro boxes following walked
    refine ⟨mediaSlices_walked walked, mediaSlices_pairwise 0 boxes, fun slice member => ?_⟩
    have bounds := (mediaSlices_bounds member).2
    rw [walked.bytes_eq, List.length_append]
    omega
  · intro cursor result
    have enough : cursor.remaining < 8 * (cursor.remaining + 1) := by omega
    have finds := nextPayload_finds enough
    exact ⟨fun found => finds.unique found, fun ran => ran ▸ finds⟩
  · rintro small cursor ⟨count, inside, rfl⟩
    rw [List.length_append] at small
    refine guarded small ?_
    simp only [Cursor.start, Cursor.skip, Cursor.remaining, Cursor.length] at inside ⊢
    omega
  · constructor
    · rintro ⟨walk, opened, rounds, succeeded, flushed⟩
      exact written_of_flushed opened succeeded flushed
    · rintro ⟨boxes, ends, split, leads⟩
      exact flushed_of_written ends split leads

def refusedInitial : Bytes := [0, 0, 0, 8, 0x66, 0x74, 0x79, 0x70, 0, 0, 0]

def refusedMedia : Bytes :=
  [11, 0x6d, 0x64, 0x61, 0x74, 1, 2, 3, 0, 0, 0, 1, 0x6d, 0x64, 0x61, 0x74] ++
    List.replicate 8 0xff

theorem oversized_box_refused :
    (∃ failure, engine.openSegment 1 (Cursor.start [0, 0, 0, 9] [1, 2, 3]) = .error failure ∧
      ∃ description, failure = .error (.badResponse description)) ∧
    ∃ walk : Walk, engine.openSegment 1 (Cursor.start refusedInitial refusedMedia) = .ok walk ∧
      engine.untilFailure 3 walk = [.ok [Frame.unnumbered 0 0 [1, 2, 3]],
        .error (.error (.badResponse
          "corrupted MP4 box: box \"mdat\" declares 18446744073709551615 bytes, 16 available"))] ∧
      (∃ failure, (engine.send (engine.afterRounds 1 walk)).1 = .error failure ∧
        ∃ description, failure = .error (.badResponse description)) ∧
      (∃ boxes following, Walked (refusedInitial ++ refusedMedia) boxes following ∧
        (mediaSlices 0 boxes).map (·.of (refusedInitial ++ refusedMedia)) = mediaPayloads boxes ∧
        (engine.untilFailure 3 walk).frames = (mediaPayloads boxes).map (Frame.unnumbered 0 0)) ∧
      (∃ header after, readHeader walk.cursor = (.ok (some header), after) ∧
        header.payload ≤ after.remaining) ∧
      (refusedInitial ++ refusedMedia).length < 2 ^ 63 ∧ Guarded walk.cursor := by
  let walk : Walk := { cursor := Cursor.start refusedInitial refusedMedia, flushed := false }
  have refused : openSegment (Cursor.start [0, 0, 0, 9] [1, 2, 3]) =
      .error (.badResponse "corrupted MP4 box: failed to fill whole buffer") := by
    decide +kernel
  have short : engine.openSegment 1 (Cursor.start [0, 0, 0, 9] [1, 2, 3]) = .error _ :=
    congrArg orStreamError refused
  have begun : openSegment (Cursor.start refusedInitial refusedMedia) = .ok walk := by
    decide +kernel
  have opened : engine.openSegment 1 (Cursor.start refusedInitial refusedMedia) = .ok walk :=
    congrArg orStreamError begun
  have second : (engine.send (engine.afterRounds 1 walk)).1 = .error (.error (.badResponse
      "corrupted MP4 box: box \"mdat\" declares 18446744073709551615 bytes, 16 available")) := by
    decide +kernel
  have header : readHeader walk.cursor = (.ok (some { kind := kindOf "ftyp", payload := 0 }),
      walk.cursor.skip 8) := by
    decide +kernel
  have small : (refusedInitial ++ refusedMedia).length < 2 ^ 63 := by decide
  obtain ⟨_, runs, slices, _, room, guards, _⟩ :=
    arbitrary_bytes_walked refusedInitial refusedMedia 1
  obtain ⟨_, _, boxes, following, walked, frames⟩ := runs walk opened 3
  obtain ⟨payloads, _, _⟩ := slices boxes following walked
  refine ⟨⟨_, short, (arbitrary_bytes_walked [0, 0, 0, 9] [1, 2, 3] 1).1 _ short⟩, walk, opened,
    by decide +kernel, ⟨_, second, (runs walk opened 1).1 _ second⟩,
    ⟨boxes, following, walked, payloads, ?_⟩, ⟨_, _, header, room _ _ _ header⟩, small,
    guards small _ (.refl _)⟩
  rw [frames, ← payloads, List.map_map]
  rfl

end Fragment

end TiledStream
