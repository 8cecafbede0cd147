import TiledStream.StreamError

/-! Bounded queues. A writer that finds no room tries again until its stream is cancelled. -/

namespace TiledStream

structure BoundedQueue (α : Type) where
  capacity : Nat
  items : List α
  deriving DecidableEq

namespace BoundedQueue

variable {α : Type}

def eventCapacity : Nat := 180

def empty (capacity : Nat) : Except Fault (BoundedQueue α) :=
  if capacity = 0 then .error .zeroCapacity else .ok { capacity, items := [] }

def isFull (queue : BoundedQueue α) : Bool := decide (queue.capacity ≤ queue.items.length)

/-- Appends an item. It would push the oldest one out of a full queue, so writers look for room
first. -/
def append (queue : BoundedQueue α) (item : α) : BoundedQueue α :=
  if queue.isFull then { queue with items := queue.items.drop 1 ++ [item] }
  else { queue with items := queue.items ++ [item] }

def take (queue : BoundedQueue α) : Option α × BoundedQueue α :=
  match queue.items with
  | [] => (none, queue)
  | oldest :: rest => (some oldest, { queue with items := rest })

def write? (queue : BoundedQueue α) (item : α) : Option (BoundedQueue α) :=
  if queue.isFull then none else some (queue.append item)

inductive Attempt (α : Type) where
  | written (queue : BoundedQueue α)
  | abandoned
  | again

/-- One attempt: room is used even when the stream is cancelled, and only a cancelled stream makes
the writer give up. -/
def attempt (queue : BoundedQueue α) (item : α) (cancelled : Bool) : Attempt α :=
  match queue.write? item with
  | some written => .written written
  | none => if cancelled then .abandoned else .again

def appendTaking (queue : BoundedQueue α) (item : α) : Option α × BoundedQueue α :=
  if queue.isFull then (queue.take.1, queue.take.2.append item) else (none, queue.append item)

def text (queue : BoundedQueue α) : String :=
  "BackpressureQueue \x7b len: " ++ toString queue.items.length ++ ", capacity: " ++
    toString queue.capacity ++ " \x7d"

@[simp] theorem append_items_of_room {queue : BoundedQueue α} (item : α)
    (room : queue.isFull = false) : (queue.append item).items = queue.items ++ [item] := by
  simp [append, room]

theorem take_items (queue : BoundedQueue α) :
    queue.take.1.toList ++ queue.take.2.items = queue.items := by
  unfold take
  split <;> simp_all

end BoundedQueue

end TiledStream
