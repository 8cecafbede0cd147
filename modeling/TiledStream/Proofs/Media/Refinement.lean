import TiledStream.Fault
import TiledStream.Proofs.Media.Reading

/-! A cursor over two parts answers as one over a single byte string does. Where the parts meet shows
only in how much a single read finds. -/

namespace TiledStream

structure PlainCursor where
  bytes : Bytes
  position : Nat
  deriving DecidableEq

namespace Cursor

inductive Operation where
  | read (count : Nat)
  | readExact (count : Nat)
  | readToEnd
  | seek (origin : Origin) (offset : Int)

inductive Answer where
  | found (bytes : Bytes)
  | short
  | moved (position : Nat)
  | refused
  deriving DecidableEq

def perform (cursor : Cursor) : Operation → Answer × Cursor
  | .read count => (.found (cursor.read count).1, (cursor.read count).2)
  | .readExact count =>
    match cursor.readExact count with
    | (some bytes, after) => (.found bytes, after)
    | (none, after) => (.short, after)
  | .readToEnd => (.found cursor.readToEnd.1, cursor.readToEnd.2)
  | .seek origin offset =>
    match cursor.seek origin offset with
    | some (position, after) => (.moved position, after)
    | none => (.refused, cursor)

structure Shown where
  answer : Answer
  position : Nat
  remaining : Nat
  deriving DecidableEq

def shows (cursor : Cursor) : List Operation → List Shown
  | [] => []
  | operation :: operations =>
    let (answer, after) := cursor.perform operation
    { answer, position := after.position, remaining := after.remaining } :: after.shows operations

def performAll (cursor : Cursor) (operations : List Operation) : Cursor :=
  operations.foldl (fun cursor operation => (cursor.perform operation).2) cursor

end Cursor

namespace PlainCursor

open Cursor (Operation Answer Shown Origin)

def rest (plain : PlainCursor) : Bytes := plain.bytes.drop plain.position

def remaining (plain : PlainCursor) : Nat := plain.bytes.length - plain.position

def advance (plain : PlainCursor) (count : Nat) : PlainCursor :=
  { plain with position := plain.position + count }

def base (plain : PlainCursor) : Origin → Nat
  | .start => 0
  | .stop => plain.bytes.length
  | .current => plain.position

/-- What an operation may answer, and where it leaves the cursor. A single read may find fewer bytes
than there are, but not none of them. -/
inductive Performs (plain : PlainCursor) : Operation → Answer → PlainCursor → Prop
  | read {count : Nat} {bytes : Bytes} (ahead : bytes <+: plain.rest) (fits : bytes.length ≤ count)
      (progress : 0 < count → 0 < plain.remaining → bytes ≠ []) :
      Performs plain (.read count) (.found bytes) (plain.advance bytes.length)
  | readExact {count : Nat} (enough : count ≤ plain.remaining) :
      Performs plain (.readExact count) (.found (plain.rest.take count)) (plain.advance count)
  | short {count : Nat} (few : plain.remaining < count) :
      Performs plain (.readExact count) .short (plain.advance plain.remaining)
  | readToEnd :
      Performs plain .readToEnd (.found plain.rest) (plain.advance plain.remaining)
  | seek {origin : Origin} {offset : Int} {target : Nat}
      (reached : (plain.base origin : Int) + offset = target) (word : target < 2 ^ 64) :
      Performs plain (.seek origin offset) (.moved target) { plain with position := target }
  | refused {origin : Origin} {offset : Int}
      (outside : (plain.base origin : Int) + offset < 0 ∨
        2 ^ 64 ≤ (plain.base origin : Int) + offset) :
      Performs plain (.seek origin offset) .refused plain

inductive Shows : PlainCursor → List Operation → List Shown → Prop
  | nil (plain : PlainCursor) : Shows plain [] []
  | cons {plain next : PlainCursor} {operation : Operation} {operations : List Operation}
      {answer : Answer} {shown : List Shown} (performed : plain.Performs operation answer next)
      (following : Shows next operations shown) :
      Shows plain (operation :: operations)
        ({ answer, position := next.position, remaining := next.remaining } :: shown)

theorem Performs.bytes_eq {plain next : PlainCursor} {operation : Operation} {answer : Answer}
    (performed : plain.Performs operation answer next) : next.bytes = plain.bytes := by
  cases performed <;> rfl

theorem Performs.position_lt {plain next : PlainCursor} {operation : Operation} {answer : Answer}
    (performed : plain.Performs operation answer next) (small : plain.bytes.length < 2 ^ 64)
    (word : plain.position < 2 ^ 64) : next.position < 2 ^ 64 := by
  have inside (count : Nat) (left : count ≤ plain.remaining) :
      (plain.advance count).position < 2 ^ 64 := by
    simp only [remaining] at left
    simp only [advance]
    omega
  cases performed with
  | read ahead =>
      apply inside
      have bound := ahead.length_le
      rwa [rest, List.length_drop] at bound
  | readExact enough => exact inside _ enough
  | short => exact inside _ (Nat.le_refl _)
  | readToEnd => exact inside _ (Nat.le_refl _)
  | seek _ target => exact target
  | refused => exact word

end PlainCursor

namespace Cursor

def plain (cursor : Cursor) : PlainCursor :=
  { bytes := cursor.initial ++ cursor.media, position := cursor.position }

@[simp] theorem length_plain (cursor : Cursor) : cursor.plain.bytes.length = cursor.length :=
  List.length_append

@[simp] theorem remaining_plain (cursor : Cursor) : cursor.plain.remaining = cursor.remaining := by
  rw [PlainCursor.remaining, length_plain]
  rfl

@[simp] theorem base_plain (cursor : Cursor) (origin : Origin) :
    cursor.plain.base origin = cursor.base origin := by
  cases origin with
  | start => rfl
  | stop => exact cursor.length_plain
  | current => rfl

@[simp] theorem plain_skip (cursor : Cursor) (count : Nat) :
    (cursor.skip count).plain = cursor.plain.advance count := rfl

theorem read_plain (cursor : Cursor) (count : Nat) :
    cursor.plain.Performs (.read count) (.found (cursor.read count).1)
      (cursor.read count).2.plain := by
  obtain ⟨found, taken, few, inside, progress⟩ := cursor.read_eq count
  have size : (cursor.rest.take found).length = found := by
    rw [List.length_take, length_rest]
    exact Nat.min_eq_left inside
  have performed : cursor.plain.Performs (.read count) (.found (cursor.rest.take found))
      (cursor.plain.advance (cursor.rest.take found).length) := by
    refine .read (List.take_prefix _ _) ?_ ?_
    · rw [size]
      exact few
    · intro asked more none
      rw [remaining_plain] at more
      rw [none, List.length_nil] at size
      have positive := progress asked more
      omega
  rw [size] at performed
  rw [taken, plain_skip]
  exact performed

theorem readExact_plain (cursor : Cursor) (count : Nat) :
    cursor.plain.Performs (.readExact count) (cursor.perform (.readExact count)).1
      (cursor.perform (.readExact count)).2.plain := by
  by_cases enough : count ≤ cursor.remaining
  · rw [perform, readExact_of_le enough]
    exact .readExact (by rwa [remaining_plain])
  · have few : cursor.remaining < count := Nat.lt_of_not_le enough
    rw [perform, readExact_of_lt few]
    have performed : cursor.plain.Performs (.readExact count) .short _ :=
      .short (by rwa [remaining_plain])
    rwa [remaining_plain] at performed

theorem seek_plain (cursor : Cursor) (origin : Origin) (offset : Int) :
    cursor.plain.Performs (.seek origin offset) (cursor.perform (.seek origin offset)).1
      (cursor.perform (.seek origin offset)).2.plain := by
  unfold perform seek
  by_cases inside : 0 ≤ (cursor.base origin : Int) + offset ∧
      (cursor.base origin : Int) + offset < 2 ^ 64
  · simp only [if_pos inside]
    refine .seek ?_ ?_
    · rw [base_plain, Int.toNat_of_nonneg inside.1]
    · have bound := inside.2
      omega
  · simp only [if_neg inside]
    refine .refused ?_
    rw [base_plain]
    omega

/-- Each operation answers as it may over one byte string, and leaves the same position. -/
theorem perform_plain (cursor : Cursor) (operation : Operation) :
    cursor.plain.Performs operation (cursor.perform operation).1
      (cursor.perform operation).2.plain := by
  cases operation with
  | read count => exact cursor.read_plain count
  | readExact count => exact cursor.readExact_plain count
  | readToEnd =>
      have performed : cursor.plain.Performs .readToEnd _ _ := .readToEnd
      rw [perform, readToEnd_eq, plain_skip]
      rwa [remaining_plain] at performed
  | seek origin offset => exact cursor.seek_plain origin offset

theorem shows_plain (cursor : Cursor) (operations : List Operation) :
    cursor.plain.Shows operations (cursor.shows operations) := by
  induction operations generalizing cursor with
  | nil => exact .nil _
  | cons operation operations ih =>
      have following := PlainCursor.Shows.cons (cursor.perform_plain operation)
        (ih (cursor.perform operation).2)
      rwa [remaining_plain] at following

theorem performAll_fits {cursor : Cursor} (small : cursor.length < 2 ^ 64)
    (word : cursor.position < 2 ^ 64) (operations : List Operation) :
    (cursor.performAll operations).length < 2 ^ 64 ∧
      (cursor.performAll operations).position < 2 ^ 64 := by
  induction operations generalizing cursor with
  | nil => exact ⟨small, word⟩
  | cons operation operations ih =>
      have performed := cursor.perform_plain operation
      have length : (cursor.perform operation).2.length = cursor.length := by
        rw [← length_plain, ← length_plain, performed.bytes_eq]
      apply ih
      · rwa [length]
      · exact performed.position_lt (by rwa [length_plain]) word

section Checked

def difference (left right : Nat) : Except Fault Nat :=
  if right ≤ left then .ok (left - right) else .error .overflow

def sliceFrom (bytes : Bytes) (first : Nat) : Except Fault Bytes :=
  if first ≤ bytes.length then .ok (bytes.drop first) else .error .outOfRange

def sliceTo (bytes : Bytes) (count : Nat) : Except Fault Bytes :=
  if count ≤ bytes.length then .ok (bytes.take count) else .error .outOfRange

def checkedChunk (cursor : Cursor) : Except Fault Bytes :=
  if cursor.position < cursor.initial.length then sliceFrom cursor.initial cursor.position
  else do
    let offset ← difference cursor.position cursor.initial.length
    if offset < cursor.media.length then sliceFrom cursor.media offset else .ok []

/-- One read, of which every difference, slice and sum is checked. -/
def checkedRead (cursor : Cursor) (count : Nat) : Except Fault (Bytes × Cursor) := do
  let chunk ← cursor.checkedChunk
  let found ← sliceTo chunk (min chunk.length count)
  let position ← fitWord 64 (cursor.position + found.length)
  .ok (found, { cursor with position })

theorem checkedChunk_eq (cursor : Cursor) : cursor.checkedChunk = .ok cursor.chunk := by
  unfold checkedChunk chunk
  by_cases inside : cursor.position < cursor.initial.length
  · rw [if_pos inside, if_pos inside, sliceFrom, if_pos (Nat.le_of_lt inside)]
  · rw [if_neg inside, if_neg inside, difference, if_pos (Nat.le_of_not_lt inside)]
    change (if _ then _ else _) = _
    split
    · rename_i more
      rw [sliceFrom, if_pos (Nat.le_of_lt more)]
    · rename_i beyond
      rw [List.drop_eq_nil_of_le (Nat.le_of_not_lt beyond)]

/-- Wherever a position stands, a read computes nothing outside a word or a part. -/
theorem checkedRead_eq {cursor : Cursor} (small : cursor.length < 2 ^ 64)
    (word : cursor.position < 2 ^ 64) (count : Nat) :
    cursor.checkedRead count = .ok (cursor.read count) := by
  have cut : cursor.chunk.take (min cursor.chunk.length count) = cursor.chunk.take count := by
    rw [Nat.min_comm, ← List.take_take, List.take_length]
  have reached : cursor.position + (cursor.chunk.take count).length < 2 ^ 64 :=
    (cursor.read_plain count).position_lt (by rwa [length_plain]) word
  rw [checkedRead, checkedChunk_eq]
  simp only [bind, Except.bind, sliceTo, if_pos (Nat.min_le_left _ _), cut,
    (fitWord_eq_ok_iff 64 _ _).mpr ⟨reached, rfl⟩]
  rfl

end Checked

/-- Whatever is asked of a cursor over two parts, one after the other, it answers as a cursor over
their concatenation may, and shows the same position and the same remainder after each answer. No
read on the way takes a difference below zero, a slice outside a part or a position beyond its
word. -/
theorem answers_as_plain (initial media : Bytes) (operations : List Operation) :
    PlainCursor.Shows { bytes := initial ++ media, position := 0 } operations
      ((start initial media).shows operations) ∧
    ((initial ++ media).length < 2 ^ 64 →
      ((start initial media).performAll operations).position < 2 ^ 64 ∧
      ∀ count, ((start initial media).performAll operations).checkedRead count =
        .ok (((start initial media).performAll operations).read count)) := by
  constructor
  · exact (start initial media).shows_plain operations
  · intro fits
    have small : (start initial media).length < 2 ^ 64 := by
      rwa [List.length_append] at fits
    have zero : (start initial media).position < 2 ^ 64 := Nat.two_pow_pos 64
    obtain ⟨length, position⟩ := performAll_fits small zero operations
    exact ⟨position, fun count => checkedRead_eq length position count⟩

def crossing : List Operation := [
  .read 4, .readExact 2, .seek .stop (-4), .readExact 3, .seek .current (-5), .readToEnd,
  .seek .start (2 ^ 64 - 1), .read 1, .readExact 1, .seek .current 1]

theorem crossing_answered :
    ([1, 2, 3] ++ [4, 5] : Bytes).length < 2 ^ 64 ∧
    (start [1, 2, 3] [4, 5]).shows crossing = [
      { answer := .found [1, 2, 3], position := 3, remaining := 2 },
      { answer := .found [4, 5], position := 5, remaining := 0 },
      { answer := .moved 1, position := 1, remaining := 4 },
      { answer := .found [2, 3, 4], position := 4, remaining := 1 },
      { answer := .refused, position := 4, remaining := 1 },
      { answer := .found [5], position := 5, remaining := 0 },
      { answer := .moved (2 ^ 64 - 1), position := 2 ^ 64 - 1, remaining := 0 },
      { answer := .found [], position := 2 ^ 64 - 1, remaining := 0 },
      { answer := .short, position := 2 ^ 64 - 1, remaining := 0 },
      { answer := .refused, position := 2 ^ 64 - 1, remaining := 0 }] ∧
    PlainCursor.Shows { bytes := [1, 2, 3, 4, 5], position := 0 } crossing
      ((start [1, 2, 3] [4, 5]).shows crossing) ∧
    ((start [1, 2, 3] [4, 5]).performAll crossing).checkedRead 7 =
      .ok (((start [1, 2, 3] [4, 5]).performAll crossing).read 7) := by
  have fits : ([1, 2, 3] ++ [4, 5] : Bytes).length < 2 ^ 64 := by decide
  obtain ⟨shown, safe⟩ := answers_as_plain [1, 2, 3] [4, 5] crossing
  exact ⟨fits, by decide +kernel, shown, (safe fits).2 7⟩

end Cursor

end TiledStream
