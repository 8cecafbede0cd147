import TiledStream.Barrier.Basic

/-! Participants of a barrier as a transition system. Whoever arrives last ends the generation and
wakes the others, who return once they see that it ended. -/

namespace TiledStream

inductive Participant where
  | running
  /-- Asleep since it arrived in a generation. -/
  | parked (generation : Nat)
  /-- Awake, and not yet sure that its generation ended. -/
  | woken (generation : Nat)
  | gone
  deriving DecidableEq

structure Assembly where
  barrier : Barrier
  completions : Nat
  participants : List Participant
  deriving DecidableEq

namespace Assembly

inductive Action where
  | arrive (participant : Nat)
  | leave (participant : Nat)
  | wake (participant : Nat)
  /-- Looks whether its generation ended. -/
  | recheck (participant : Nat)
  deriving DecidableEq

def start (participants : Nat) : Assembly where
  barrier := Barrier.start participants
  completions := 0
  participants := List.replicate participants .running

def rouse : Participant → Participant
  | .parked generation => .woken generation
  | participant => participant

def setParticipant (assembly : Assembly) (index : Nat) (participant : Participant) : Assembly :=
  { assembly with participants := assembly.participants.set index participant }

def settled (assembly : Assembly) (result : Bool × Barrier) : Assembly :=
  if result.1 then
    { barrier := result.2
      completions := assembly.completions + 1
      participants := assembly.participants.map rouse }
  else { assembly with barrier := result.2 }

def step (assembly : Assembly) : Action → Option Assembly
  | .arrive index =>
    match assembly.participants[index]? with
    | some .running =>
      let result := assembly.barrier.arrive
      if result.1 then some (assembly.settled result)
      else
        let parked := assembly.setParticipant index (.parked assembly.barrier.generation)
        some (parked.settled result)
    | _ => none
  | .leave index =>
    match assembly.participants[index]? with
    | some .running => some ((assembly.setParticipant index .gone).settled assembly.barrier.leave)
    | _ => none
  | .wake index =>
    match assembly.participants[index]? with
    | some (.parked generation) => some (assembly.setParticipant index (.woken generation))
    | _ => none
  | .recheck index =>
    match assembly.participants[index]? with
    | some (.woken generation) =>
      if assembly.barrier.generation = generation then
        some (assembly.setParticipant index (.parked generation))
      else some (assembly.setParticipant index .running)
    | _ => none

inductive Reachable (participants : Nat) : Assembly → Prop where
  | start : Reachable participants (start participants)
  | step {assembly next : Assembly} (action : Action) :
      Reachable participants assembly → assembly.step action = some next →
      Reachable participants next

def join (assembly : Assembly) : Assembly :=
  { assembly with participants := assembly.participants ++ [.running] }

def recheckAll (assembly : Assembly) : Assembly :=
  (List.range assembly.participants.length).foldl
    (fun assembly index => (assembly.step (.recheck index)).getD assembly) assembly

def waiting (assembly : Assembly) : List Nat :=
  (List.range assembly.participants.length).filter fun index =>
    match assembly.participants[index]? with
    | some (.parked _) | some (.woken _) => true
    | _ => false

end Assembly

end TiledStream
