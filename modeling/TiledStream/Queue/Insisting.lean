import TiledStream.Queue.Waiting

/-! Writers that insist on an event: a write that ran out of time is made again with the event it
handed back, unless the stream was found cancelled in between. -/

namespace TiledStream.Insisting

variable {α : Type}

inductive Errand (α : Type) where
  | idle
  /-- In a write with a deadline. -/
  | writing (event : α)
  /-- Got the event back, and has not yet looked whether the stream is cancelled. -/
  | refused (event : α)
  deriving DecidableEq

structure Return (α : Type) where
  writer : Nat
  event : α
  result : Except StreamError Unit

structure State (α : Type) where
  waiting : Waiting.State α
  errands : List (Errand α)
  cancelled : Bool
  returns : List (Return α)

inductive Action (α : Type) where
  | insist (writer : Nat) (event : α)
  /-- Something happens at the queue: to a write under way, or to a reader. -/
  | queue (action : Waiting.Action α)
  /-- A writer that got its event back looks whether the stream is cancelled. -/
  | look (writer : Nat)
  | cancel

def write (state : State α) (writer : Nat) (event : α) : Option (State α) :=
  (Waiting.step state.waiting (.call writer event true)).map fun waiting =>
    { state with waiting, errands := state.errands.set writer (.writing event) }

def finish (state : State α) (writer : Nat) (event : α) (result : Except StreamError Unit) :
    State α :=
  { state with
    errands := state.errands.set writer .idle
    returns := state.returns ++ [{ writer, event, result }] }

def proceed (state : State α) (waiting : Waiting.State α) : State α :=
  match waiting.outcomes[state.waiting.outcomes.length]? with
  | none => { state with waiting }
  | some outcome =>
    if outcome.written then finish { state with waiting } outcome.writer outcome.item (.ok ())
    else
      { state with
        waiting
        errands := state.errands.set outcome.writer (.refused outcome.item) }

def step (state : State α) : Action α → Option (State α)
  | .insist writer event =>
    match state.errands[writer]? with
    | some .idle => write state writer event
    | _ => none
  | .queue action =>
    match action with
    | .call _ _ _ => none
    | action => (Waiting.step state.waiting action).map (proceed state)
  | .look writer =>
    match state.errands[writer]? with
    | some (.refused event) =>
      if state.cancelled then some (finish state writer event (.error .aborted))
      else write state writer event
    | _ => none
  | .cancel => some { state with cancelled := true }

structure Setup (α : Type) where
  queue : BoundedQueue α
  cancelled : Bool
  writers : Nat
  readers : Nat
  deriving DecidableEq

def start (setup : Setup α) : State α where
  waiting := {
    queue := setup.queue
    writers := List.replicate setup.writers .idle
    readers := List.replicate setup.readers .idle
    accepted := setup.queue.items
    taken := []
    outcomes := [] }
  errands := List.replicate setup.writers .idle
  cancelled := setup.cancelled
  returns := []

inductive Reachable (setup : Setup α) : State α → Prop where
  | start : Reachable setup (start setup)
  | step {state next : State α} (action : Action α) :
      Reachable setup state → step state action = some next → Reachable setup next

end TiledStream.Insisting
