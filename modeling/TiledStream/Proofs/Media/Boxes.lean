import TiledStream.Media.Fragment
import TiledStream.Proofs.Media.Reading

/-! Boxes as a writer puts them, and that the decoder finds in them what was written, wherever the
bytes are split in two. -/

namespace TiledStream

def Engine.afterRounds (engine : Engine) : (rounds : Nat) → engine.State → engine.State
  | 0, decoder => decoder
  | rounds + 1, decoder => engine.afterRounds rounds (engine.send decoder).2

namespace Fragment

def numeral : (count value : Nat) → Bytes
  | 0, _ => []
  | count + 1, value => numeral count (value / 256) ++ [UInt8.ofNat value]

@[simp] theorem length_numeral (count value : Nat) : (numeral count value).length = count := by
  induction count generalizing value with
  | zero => rfl
  | succ count ih => rw [numeral, List.length_append, ih, List.length_singleton]

theorem bigEndian_numeral {count value : Nat} (fits : value < 256 ^ count) :
    Cursor.bigEndian (numeral count value) = value := by
  induction count generalizing value with
  | zero =>
      obtain rfl : value = 0 := by simpa using fits
      rfl
  | succ count ih =>
      have high : value / 256 < 256 ^ count := by
        rw [Nat.pow_succ] at fits
        exact Nat.div_lt_of_lt_mul (by rwa [Nat.mul_comm])
      have low : (UInt8.ofNat value).toNat = value % 256 := UInt8.toNat_ofNat'
      have front := ih high
      rw [Cursor.bigEndian] at front ⊢
      rw [numeral, List.foldl_append, front]
      simp only [List.foldl_cons, List.foldl_nil, low]
      omega

/-- How a box states its size: in four bytes, in eight more after its kind, or not at all, so that
it takes all that is left. -/
inductive SizeForm where
  | word
  | large
  | toEnd
  deriving DecidableEq

def SizeForm.Fits (payload : Nat) : SizeForm → Prop
  | .word => payload + 8 < 2 ^ 32
  | .large => payload + 16 < 2 ^ 64
  | .toEnd => True

instance (payload : Nat) : (form : SizeForm) → Decidable (form.Fits payload)
  | .word => inferInstanceAs (Decidable (payload + 8 < 2 ^ 32))
  | .large => inferInstanceAs (Decidable (payload + 16 < 2 ^ 64))
  | .toEnd => .isTrue trivial

structure Box where
  kind : Kind
  payload : Bytes
  form : SizeForm
  kind_length : kind.length = 4
  fits : form.Fits payload.length

namespace Box

def field (box : Box) : Nat :=
  match box.form with
  | .word => box.payload.length + 8
  | .large => 1
  | .toEnd => 0

def extension (box : Box) : Bytes :=
  match box.form with
  | .large => numeral 8 (box.payload.length + 16)
  | .word | .toEnd => []

def header (box : Box) : Bytes := numeral 4 box.field ++ box.kind ++ box.extension

def write (box : Box) : Bytes := box.header ++ box.payload

def isMedia (box : Box) : Bool := decide (box.kind = mediaData)

theorem field_lt (box : Box) : box.field < 256 ^ 4 := by
  have fits := box.fits
  unfold field
  cases form : box.form with
  | word =>
      rw [form] at fits
      exact fits
  | large => exact (by decide : 1 < 256 ^ 4)
  | toEnd => exact (by decide : 0 < 256 ^ 4)

theorem length_write (box : Box) : 8 ≤ box.write.length := by
  simp only [write, header, List.length_append, length_numeral, box.kind_length]
  omega

end Box

variable {cursor : Cursor} {box : Box} {following : Bytes}

theorem checkHeader_of_fits {kind : Kind} {payload length remaining : Nat}
    (fits : payload ≤ remaining) :
    checkHeader kind (payload + length) length remaining = .ok { kind, payload } := by
  have room : ¬(payload + length < length ∨ remaining < payload + length - length) := by omega
  rw [checkHeader, if_neg room, Nat.add_sub_cancel]

theorem readSize_written (ahead : cursor.rest = box.extension ++ (box.payload ++ following))
    (alone : box.form = .toEnd → following = []) :
    ∃ length, readSize cursor box.field =
      (some (box.payload.length + length, length), cursor.skip box.extension.length) := by
  have fits := box.fits
  unfold readSize
  cases form : box.form with
  | word =>
      have field : box.field = box.payload.length + 8 := by rw [Box.field, form]
      have extension : box.extension = [] := by rw [Box.extension, form]
      refine ⟨8, ?_⟩
      rw [field, extension, if_neg (by omega), if_neg (by omega)]
      rfl
  | large =>
      have field : box.field = 1 := by rw [Box.field, form]
      have extension : box.extension = numeral 8 (box.payload.length + 16) := by
        rw [Box.extension, form]
      rw [form] at fits
      have small : box.payload.length + 16 < 256 ^ 8 := fits
      refine ⟨16, ?_⟩
      rw [extension] at ahead ⊢
      rw [field, if_neg (by omega), if_pos rfl,
        (Cursor.readExact_append ahead (length_numeral 8 _)).1]
      simp only [bigEndian_numeral small, length_numeral]
  | toEnd =>
      have field : box.field = 0 := by rw [Box.field, form]
      have extension : box.extension = [] := by rw [Box.extension, form]
      refine ⟨8, ?_⟩
      have remaining : cursor.remaining = box.payload.length := by
        rw [← Cursor.length_rest, ahead, extension, alone form, List.nil_append, List.append_nil]
      rw [field, extension, if_pos rfl, remaining]
      rfl

theorem readHeader_written (ahead : cursor.rest = box.write ++ following)
    (alone : box.form = .toEnd → following = []) :
    readHeader cursor =
      (.ok (some { kind := box.kind, payload := box.payload.length }),
        cursor.skip box.header.length) := by
  have more : cursor.remaining ≠ 0 := by
    rw [← Cursor.length_rest, ahead, List.length_append]
    have size := box.length_write
    omega
  simp only [Box.write, Box.header, List.append_assoc] at ahead
  obtain ⟨field, after_field⟩ := Cursor.readExact_append ahead (length_numeral 4 _)
  obtain ⟨kind, after_kind⟩ := Cursor.readExact_append after_field box.kind_length
  obtain ⟨length, size⟩ := readSize_written after_kind alone
  have enough : box.payload.length ≤
      ((((cursor.skip 4).skip 4)).skip box.extension.length).remaining := by
    rw [← Cursor.length_rest, Cursor.rest_skip, after_kind, List.drop_left, List.length_append]
    exact Nat.le_add_right _ _
  rw [readHeader, if_neg more, field]
  simp only [kind, bigEndian_numeral box.field_lt, size, checkHeader_of_fits enough]
  simp only [Except.map, Cursor.skip_skip, Box.header, List.length_append, length_numeral,
    box.kind_length]

def write (boxes : List Box) : Bytes := boxes.flatMap Box.write

def OpenAtEnd (boxes : List Box) : Prop := ∀ box ∈ boxes.dropLast, box.form ≠ .toEnd

def mediaPayloads (boxes : List Box) : List Bytes := (boxes.filter (·.isMedia)).map (·.payload)

theorem OpenAtEnd.head {boxes : List Box} (ends : OpenAtEnd (box :: boxes)) :
    box.form = .toEnd → write boxes = [] := by
  intro form
  cases boxes with
  | nil => rfl
  | cons next boxes => exact absurd form (ends box (by simp))

theorem OpenAtEnd.tail {boxes : List Box} (ends : OpenAtEnd (box :: boxes)) : OpenAtEnd boxes := by
  intro other member
  cases boxes with
  | nil => simp at member
  | cons next boxes => exact ends other (by simp [member])

theorem length_le_write (boxes : List Box) : boxes.length ≤ (write boxes).length := by
  induction boxes with
  | nil => exact Nat.le_refl _
  | cons box boxes ih =>
      have size := box.length_write
      simp only [write, List.flatMap_cons, List.length_append, List.length_cons] at ih ⊢
      omega

def Holds (walk : Walk) (payloads : List Bytes) : Prop :=
  walk.flushed = false ∧ ∃ boxes, OpenAtEnd boxes ∧ walk.cursor.rest = write boxes ∧
    mediaPayloads boxes = payloads

theorem nextPayload_written {boxes : List Box} {steps : Nat} (ahead : cursor.rest = write boxes)
    (ends : OpenAtEnd boxes) (enough : boxes.length < steps) :
    (mediaPayloads boxes = [] ∧ ∃ after, nextPayload cursor steps = (.ok none, after)) ∨
    ∃ payload others after, mediaPayloads boxes = payload :: mediaPayloads others ∧
      OpenAtEnd others ∧ after.rest = write others ∧
      nextPayload cursor steps = (.ok (some payload), after) := by
  induction boxes generalizing cursor steps with
  | nil =>
      obtain ⟨steps, rfl⟩ : ∃ fewer, steps = fewer + 1 := ⟨steps - 1, by omega⟩
      have nothing : cursor.remaining = 0 := by
        rw [← Cursor.length_rest, ahead]
        rfl
      refine .inl ⟨rfl, cursor, ?_⟩
      rw [nextPayload, readHeader, if_pos nothing]
  | cons box boxes ih =>
      obtain ⟨steps, rfl⟩ : ∃ fewer, steps = fewer + 1 := ⟨steps - 1, by omega⟩
      rw [List.length_cons] at enough
      rw [write, List.flatMap_cons] at ahead
      have header := readHeader_written ahead ends.head
      have at_payload : (cursor.skip box.header.length).rest = box.payload ++ write boxes := by
        rw [Cursor.rest_skip, ahead, Box.write, List.append_assoc, List.drop_left]
        rfl
      obtain ⟨payload, behind⟩ := Cursor.readExact_append at_payload rfl
      rw [nextPayload, header]
      by_cases media : box.kind = mediaData
      · refine .inr ⟨box.payload, boxes, _, ?_, ends.tail, behind, ?_⟩
        · simp [mediaPayloads, Box.isMedia, media]
        · simp only [if_pos media, payload]
      · -- Any other box is passed over, up to where an exact read would have come.
        have passed : mediaPayloads (box :: boxes) = mediaPayloads boxes := by
          simp [mediaPayloads, Box.isMedia, media]
        rw [passed]
        simp only [if_neg media]
        exact ih behind ends.tail (by omega)

theorem Holds.send_none {walk : Walk} (holds : Holds walk []) :
    (send walk).1 = .ok [] ∧ (send walk).2.flushed = true := by
  obtain ⟨flushed, boxes, ends, ahead, none⟩ := holds
  have enough : boxes.length < walk.cursor.remaining + 1 := by
    rw [← Cursor.length_rest, ahead]
    exact Nat.lt_succ_of_le (length_le_write boxes)
  rcases nextPayload_written ahead ends enough with ⟨_, after, ran⟩ | ⟨payload, _, _, more, _⟩
  · simp [send, flushed, ran]
  · simp [none] at more

theorem Holds.send_some {walk : Walk} {payload : Bytes} {others : List Bytes}
    (holds : Holds walk (payload :: others)) :
    (send walk).1 = .ok [Frame.unnumbered 0 0 payload] ∧ Holds (send walk).2 others := by
  obtain ⟨flushed, boxes, ends, ahead, more⟩ := holds
  have enough : boxes.length < walk.cursor.remaining + 1 := by
    rw [← Cursor.length_rest, ahead]
    exact Nat.lt_succ_of_le (length_le_write boxes)
  rcases nextPayload_written ahead ends enough with ⟨none, _⟩ | ⟨first, rest, after, found, ends_rest,
    behind, ran⟩
  · simp [none] at more
  · rw [more, List.cons.injEq] at found
    obtain ⟨rfl, rfl⟩ := found
    constructor
    · simp [send, flushed, ran]
    · refine ⟨?_, rest, ends_rest, ?_, rfl⟩
      · simp [send, flushed, ran]
      · simp [send, flushed, ran, behind]

theorem send_flushed {walk : Walk} (flushed : walk.flushed = true) : send walk = (.ok [], walk) := by
  rw [send, if_pos flushed]

theorem afterRounds_flushed {walk : Walk} (flushed : walk.flushed = true) (rounds : Nat) :
    engine.afterRounds rounds walk = walk := by
  induction rounds with
  | zero => rfl
  | succ rounds ih =>
      change engine.afterRounds rounds (send walk).2 = walk
      rw [send_flushed flushed]
      exact ih

/-- Round after round a decoder hands out its payloads, and one more round flushes it. -/
theorem Holds.afterRounds {walk : Walk} {payloads : List Bytes} (holds : Holds walk payloads)
    (rounds : Nat) :
    (engine.send (engine.afterRounds rounds walk)).1 =
        .ok (payloads[rounds]?.toList.map (Frame.unnumbered 0 0)) ∧
      engine.isFlushed (engine.afterRounds rounds walk) = decide (payloads.length < rounds) := by
  induction rounds generalizing walk payloads with
  | zero =>
      refine ⟨?_, holds.1⟩
      change orStreamError (send walk).1 = _
      cases payloads with
      | nil =>
          rw [holds.send_none.1]
          rfl
      | cons payload others =>
          rw [holds.send_some.1]
          rfl
  | succ rounds ih =>
      change (engine.send (engine.afterRounds rounds (send walk).2)).1 = _ ∧
        engine.isFlushed (engine.afterRounds rounds (send walk).2) = _
      cases payloads with
      | nil =>
          have flushed := holds.send_none.2
          rw [afterRounds_flushed flushed]
          refine ⟨?_, flushed⟩
          change orStreamError (send (send walk).2).1 = _
          rw [send_flushed flushed]
          rfl
      | cons payload others =>
          obtain ⟨sent, flushed⟩ := ih holds.send_some.2
          refine ⟨sent, ?_⟩
          rw [flushed, List.length_cons]
          simp only [Nat.add_lt_add_iff_right]

theorem openSegment_written {boxes : List Box} {initial media : Bytes} (ends : OpenAtEnd boxes)
    (leads : ∃ first ∈ boxes.head?, first.kind ∈ leading) (split : initial ++ media = write boxes) :
    ∃ walk, openSegment (Cursor.start initial media) = .ok walk ∧
      Holds walk (mediaPayloads boxes) := by
  obtain ⟨first, at_head, leading⟩ := leads
  cases boxes with
  | nil => simp at at_head
  | cons box boxes =>
      obtain rfl : box = first := by simpa using at_head
      have ahead : (Cursor.start initial media).rest = box.write ++ write boxes := split
      refine ⟨{ cursor := Cursor.start initial media, flushed := false }, ?_, rfl, box :: boxes, ends,
        split, rfl⟩
      rw [openSegment, readHeader_written ahead ends.head]
      simp only [List.contains_iff_mem.mpr leading, ↓reduceIte]
      rfl

/-- What a writer of boxes puts, the decoder takes apart again, wherever the bytes are split: the
payloads of the media data boxes come out round by round as they were written, one frame in each
round, and one empty round flushes the decoder for good. -/
theorem written_boxes_decoded {boxes : List Box} {initial media : Bytes}
    (leads : ∃ first ∈ boxes.head?, first.kind ∈ leading) (ends : OpenAtEnd boxes)
    (split : initial ++ media = write boxes) (concurrency : Nat) :
    ∃ decoder, engine.openSegment concurrency (Cursor.start initial media) = .ok decoder ∧
      (∀ rounds payload, (mediaPayloads boxes)[rounds]? = some payload →
        (engine.send (engine.afterRounds rounds decoder)).1 =
          .ok [Frame.unnumbered 0 0 payload]) ∧
      (∀ rounds, (mediaPayloads boxes).length ≤ rounds →
        (engine.send (engine.afterRounds rounds decoder)).1 = .ok []) ∧
      ∀ rounds, engine.isFlushed (engine.afterRounds rounds decoder) =
        decide ((mediaPayloads boxes).length < rounds) := by
  obtain ⟨walk, opened, holds⟩ := openSegment_written ends leads split
  refine ⟨walk, ?_, ?_, ?_, ?_⟩
  · change orStreamError (openSegment (Cursor.start initial media)) = .ok walk
    rw [opened]
    rfl
  · intro rounds payload found
    rw [(holds.afterRounds rounds).1, found]
    rfl
  · intro rounds beyond
    rw [(holds.afterRounds rounds).1, List.getElem?_eq_none beyond]
    rfl
  · intro rounds
    exact (holds.afterRounds rounds).2

def sampleBoxes : List Box := [
  { kind := kindOf "ftyp", payload := [1], form := .word, kind_length := by decide
    fits := by decide },
  { kind := mediaData, payload := [2, 3, 4], form := .large, kind_length := by decide
    fits := by decide },
  { kind := kindOf "free", payload := [], form := .word, kind_length := by decide
    fits := by decide },
  { kind := mediaData, payload := [5, 6], form := .toEnd, kind_length := by decide
    fits := trivial }]

theorem split_sample_decoded :
    (∃ first ∈ sampleBoxes.head?, first.kind ∈ leading) ∧ OpenAtEnd sampleBoxes ∧
    (write sampleBoxes).take 20 ++ (write sampleBoxes).drop 20 = write sampleBoxes ∧
    ∃ decoder, engine.openSegment 1
        (Cursor.start ((write sampleBoxes).take 20) ((write sampleBoxes).drop 20)) = .ok decoder ∧
      (engine.send (engine.afterRounds 0 decoder)).1 = .ok [Frame.unnumbered 0 0 [2, 3, 4]] ∧
      (engine.send (engine.afterRounds 1 decoder)).1 = .ok [Frame.unnumbered 0 0 [5, 6]] ∧
      (engine.send (engine.afterRounds 2 decoder)).1 = .ok [] ∧
      engine.isFlushed (engine.afterRounds 3 decoder) = true := by
  have leads : ∃ first ∈ sampleBoxes.head?, first.kind ∈ leading := ⟨_, rfl, by decide⟩
  have ends : OpenAtEnd sampleBoxes := by
    intro box member
    simp only [sampleBoxes, List.dropLast_cons_cons, List.dropLast_singleton, List.mem_cons,
      List.not_mem_nil, or_false] at member
    rcases member with rfl | rfl | rfl <;> decide
  have split := List.take_append_drop 20 (write sampleBoxes)
  obtain ⟨decoder, opened, frames, empty, flushed⟩ := written_boxes_decoded leads ends split 1
  exact ⟨leads, ends, split, decoder, opened, frames 0 _ rfl, frames 1 _ rfl,
    empty 2 (by decide), flushed 3⟩

end Fragment

end TiledStream
