/-! Barriers that participants meet at again and again, and may leave for good. -/

namespace TiledStream

structure Barrier where
  /-- Participants that the current generation still waits for. -/
  pending : Nat
  /-- Participants of the generations to come. -/
  threshold : Nat
  generation : Nat
  deriving DecidableEq

namespace Barrier

def start (participants : Nat) : Barrier :=
  { pending := participants, threshold := participants, generation := 0 }

def settle (barrier : Barrier) : Bool × Barrier :=
  if barrier.pending = 0 then
    (true, { barrier with pending := barrier.threshold, generation := barrier.generation + 1 })
  else (false, barrier)

def arrive (barrier : Barrier) : Bool × Barrier :=
  settle { barrier with pending := barrier.pending - 1 }

def leave (barrier : Barrier) : Bool × Barrier :=
  settle { barrier with pending := barrier.pending - 1, threshold := barrier.threshold - 1 }

theorem arrive_of_last {barrier : Barrier} (last : barrier.pending ≤ 1) :
    barrier.arrive = (true, {
      pending := barrier.threshold
      threshold := barrier.threshold
      generation := barrier.generation + 1 }) := by
  have none_left : barrier.pending - 1 = 0 := by omega
  simp [arrive, settle, none_left]

theorem arrive_of_others {barrier : Barrier} (others : 1 < barrier.pending) :
    barrier.arrive = (false, { barrier with pending := barrier.pending - 1 }) := by
  have some_left : barrier.pending - 1 ≠ 0 := by omega
  simp [arrive, settle, some_left]

theorem leave_of_last {barrier : Barrier} (last : barrier.pending ≤ 1) :
    barrier.leave = (true, {
      pending := barrier.threshold - 1
      threshold := barrier.threshold - 1
      generation := barrier.generation + 1 }) := by
  have none_left : barrier.pending - 1 = 0 := by omega
  simp [leave, settle, none_left]

theorem leave_of_others {barrier : Barrier} (others : 1 < barrier.pending) :
    barrier.leave = (false, {
      barrier with pending := barrier.pending - 1, threshold := barrier.threshold - 1 }) := by
  have some_left : barrier.pending - 1 ≠ 0 := by omega
  simp [leave, settle, some_left]

def text (barrier : Barrier) : String :=
  "GenerationBarrier \x7b pending: " ++ toString barrier.pending ++ ", threshold: " ++
    toString barrier.threshold ++ ", generation: " ++ toString barrier.generation ++ " \x7d"

end Barrier

end TiledStream
