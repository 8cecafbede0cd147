import TiledStream.Queue.Basic

/-! Writers and readers of a queue as a transition system. A writer without room sleeps; a reader
that took an item wakes one sleeping writer in a step of its own; a deadline or nothing at all may
wake a writer as well. -/

namespace TiledStream.Waiting

variable {α : Type}

inductive Writer (α : Type) where
  | idle
  /-- Called, and not yet inside the lock. -/
  | entering (item : α) (timed : Bool)
  | asleep (item : α) (timed : Bool)
  /-- Awake, and not yet inside the lock again. -/
  | woken (item : α) (timed : Bool)
  deriving DecidableEq

inductive Reader where
  | idle
  /-- Took an item, and has not yet woken a writer. -/
  | notifying
  deriving DecidableEq

structure Outcome (α : Type) where
  writer : Nat
  item : α
  written : Bool
  deriving DecidableEq

structure State (α : Type) where
  queue : BoundedQueue α
  writers : List (Writer α)
  readers : List Reader
  /-- Items in the order in which the queue took them. -/
  accepted : List α
  /-- Items in the order in which readers took them. -/
  taken : List α
  outcomes : List (Outcome α)
  deriving DecidableEq

inductive Action (α : Type) where
  | call (writer : Nat) (item : α) (timed : Bool)
  /-- A writer gets the lock; its deadline, if it has one, may have passed. -/
  | enter (writer : Nat) (expired : Bool)
  | wake (writer : Nat)
  | read (reader : Nat)
  /-- Wakes a sleeping writer of the scheduler's choice; without one nothing happens. -/
  | notify (reader : Nat) (writer : Nat)

def isAsleep : Writer α → Bool
  | .asleep _ _ => true
  | _ => false

def rouse : Writer α → Writer α
  | .asleep item timed => .woken item timed
  | writer => writer

def setWriter (state : State α) (index : Nat) (writer : Writer α) : State α :=
  { state with writers := state.writers.set index writer }

def attempt (state : State α) (index : Nat) (item : α) (timed expired : Bool) : State α :=
  match state.queue.write? item with
  | some queue =>
    { setWriter state index .idle with
      queue
      accepted := state.accepted ++ [item]
      outcomes := state.outcomes ++ [{ writer := index, item, written := true }] }
  | none =>
    if timed && expired then
      { setWriter state index .idle with
        outcomes := state.outcomes ++ [{ writer := index, item, written := false }] }
    else setWriter state index (.asleep item timed)

def step (state : State α) : Action α → Option (State α)
  | .call index item timed =>
    match state.writers[index]? with
    | some .idle => some (setWriter state index (.entering item timed))
    | _ => none
  | .enter index expired =>
    match state.writers[index]? with
    | some (.entering item timed) => some (attempt state index item timed expired)
    | some (.woken item timed) => some (attempt state index item timed expired)
    | _ => none
  | .wake index =>
    match state.writers[index]? with
    | some (.asleep item timed) => some (setWriter state index (.woken item timed))
    | _ => none
  | .read index =>
    match state.readers[index]? with
    | some .idle =>
      match state.queue.take with
      | (some item, queue) =>
        some { state with
          queue
          readers := state.readers.set index .notifying
          taken := state.taken ++ [item] }
      | (none, _) => some state
    | _ => none
  | .notify index chosen =>
    match state.readers[index]? with
    | some .notifying =>
      let quiet := { state with readers := state.readers.set index .idle }
      if state.writers.any isAsleep then
        match state.writers[chosen]? with
        | some (.asleep item timed) => some (setWriter quiet chosen (.woken item timed))
        | _ => none
      else some quiet
    | _ => none

def start (capacity writers readers : Nat) : State α where
  queue := { capacity, items := [] }
  writers := List.replicate writers .idle
  readers := List.replicate readers .idle
  accepted := []
  taken := []
  outcomes := []

inductive Reachable (capacity writers readers : Nat) : State α → Prop where
  | start : Reachable capacity writers readers (start capacity writers readers)
  | step {state next : State α} (action : Action α) :
      Reachable capacity writers readers state → step state action = some next →
      Reachable capacity writers readers next

end TiledStream.Waiting
