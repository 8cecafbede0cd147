import TiledStream.Barrier.Assembly
import TiledStream.Proofs.Exchange

/-! Runs of an assembly with their past: who arrived and who left in which generation, and all that
a step can do. -/

namespace TiledStream.Assembly

structure Moment where
  before : Assembly
  action : Action
  deriving DecidableEq

namespace Moment

def generation (moment : Moment) : Nat := moment.before.barrier.generation

def isDeparture (moment : Moment) (index : Nat) : Bool := decide (moment.action = .leave index)

def isArrival (moment : Moment) (index : Nat) : Bool :=
  decide (moment.action = .arrive index) || moment.isDeparture index

def completes (moment : Moment) : Bool :=
  match moment.action with
  | .arrive _ => moment.before.barrier.arrive.1
  | .leave _ => moment.before.barrier.leave.1
  | .wake _ | .recheck _ => false

end Moment

inductive Run (participants : Nat) : List Moment → Assembly → Prop where
  | start : Run participants [] (start participants)
  | step {past : List Moment} {assembly next : Assembly} (action : Action) :
      Run participants past assembly → assembly.step action = some next →
      Run participants (past ++ [{ before := assembly, action }]) next

theorem reachable_iff_run {participants : Nat} {assembly : Assembly} :
    Reachable participants assembly ↔ ∃ past, Run participants past assembly := by
  constructor
  · intro reached
    induction reached with
    | start => exact ⟨[], .start⟩
    | step action _ stepped ih =>
        obtain ⟨past, run⟩ := ih
        exact ⟨_, run.step action stepped⟩
  · rintro ⟨past, run⟩
    induction run with
    | start => exact .start
    | step action _ stepped ih => exact ih.step action stepped

def hasLeft (past : List Moment) (index : Nat) : Bool := past.any (·.isDeparture index)

def hasArrived (past : List Moment) (generation index : Nat) : Bool :=
  past.any fun moment => moment.generation == generation && moment.isArrival index

/-- A generation counts on everyone who did not leave in an earlier one. -/
def isLiveIn (past : List Moment) (generation index : Nat) : Bool :=
  !past.any fun moment => decide (moment.generation < generation) && moment.isDeparture index

def completed (past : List Moment) : List Nat :=
  (past.filter Moment.completes).map Moment.generation

def entered? (past : List Moment) (index : Nat) : Option Nat :=
  (past.filter fun moment => decide (moment.action = .arrive index)).getLast?.map Moment.generation

/-- Whether a participant returns from its wait in a step: at once when it is the last to arrive,
and otherwise when it looks and finds that the generation ended. -/
def Returns (action : Action) (next : Assembly) (index : Nat) : Prop :=
  next.participants[index]? = some .running ∧ (action = .arrive index ∨ action = .recheck index)

end TiledStream.Assembly

namespace TiledStream.Participant

def isLive : Participant → Bool
  | .gone => false
  | _ => true

def isAwaited (generation : Nat) : Participant → Bool
  | .running => true
  | .parked entered | .woken entered => entered != generation
  | .gone => false

@[simp] theorem isLive_rouse (participant : Participant) :
    (Assembly.rouse participant).isLive = participant.isLive := by
  cases participant <;> rfl

end TiledStream.Participant

namespace TiledStream.Assembly

variable {participants index generation : Nat} {past : List Moment} {moment : Moment}
  {assembly next : Assembly} {action : Action}

@[simp] theorem hasLeft_append :
    hasLeft (past ++ [moment]) index = (hasLeft past index || moment.isDeparture index) := by
  simp [hasLeft]

@[simp] theorem hasArrived_append :
    hasArrived (past ++ [moment]) generation index =
      (hasArrived past generation index ||
        (moment.generation == generation && moment.isArrival index)) := by
  simp [hasArrived]

@[simp] theorem isLiveIn_append :
    isLiveIn (past ++ [moment]) generation index =
      (isLiveIn past generation index &&
        !(decide (moment.generation < generation) && moment.isDeparture index)) := by
  simp [isLiveIn]

theorem completed_append :
    completed (past ++ [moment]) =
      completed past ++ if moment.completes then [moment.generation] else [] := by
  by_cases ran : moment.completes = true <;> simp [completed, ran]

theorem entered?_append :
    entered? (past ++ [moment]) index =
      if moment.action = .arrive index then some moment.generation else entered? past index := by
  by_cases arrives : moment.action = .arrive index <;> simp [entered?, arrives]

def released (assembly : Assembly) (index : Nat) (after : Participant) : List Participant :=
  (assembly.participants.set index after).map rouse

inductive Change (assembly : Assembly) : Action → Assembly → Prop where
  | arriveLast (index : Nat) : assembly.participants[index]? = some .running →
      assembly.barrier.pending ≤ 1 →
      Change assembly (.arrive index) {
        barrier := {
          pending := assembly.barrier.threshold
          threshold := assembly.barrier.threshold
          generation := assembly.barrier.generation + 1 }
        completions := assembly.completions + 1
        participants := assembly.released index .running }
  | arriveEarly (index : Nat) : assembly.participants[index]? = some .running →
      1 < assembly.barrier.pending →
      Change assembly (.arrive index) {
        barrier := { assembly.barrier with pending := assembly.barrier.pending - 1 }
        completions := assembly.completions
        participants :=
          assembly.participants.set index (.parked assembly.barrier.generation) }
  | leaveLast (index : Nat) : assembly.participants[index]? = some .running →
      assembly.barrier.pending ≤ 1 →
      Change assembly (.leave index) {
        barrier := {
          pending := assembly.barrier.threshold - 1
          threshold := assembly.barrier.threshold - 1
          generation := assembly.barrier.generation + 1 }
        completions := assembly.completions + 1
        participants := assembly.released index .gone }
  | leaveEarly (index : Nat) : assembly.participants[index]? = some .running →
      1 < assembly.barrier.pending →
      Change assembly (.leave index) {
        barrier := {
          assembly.barrier with
          pending := assembly.barrier.pending - 1
          threshold := assembly.barrier.threshold - 1 }
        completions := assembly.completions
        participants := assembly.participants.set index .gone }
  | wake (index entered : Nat) : assembly.participants[index]? = some (.parked entered) →
      Change assembly (.wake index) (assembly.setParticipant index (.woken entered))
  | sleepAgain (index : Nat) :
      assembly.participants[index]? = some (.woken assembly.barrier.generation) →
      Change assembly (.recheck index)
        (assembly.setParticipant index (.parked assembly.barrier.generation))
  | goOn (index entered : Nat) : assembly.participants[index]? = some (.woken entered) →
      assembly.barrier.generation ≠ entered →
      Change assembly (.recheck index) (assembly.setParticipant index .running)

theorem change_of_step (stepped : assembly.step action = some next) :
    Change assembly action next := by
  cases action with
  | arrive index =>
      simp only [step] at stepped
      split at stepped
      · rename_i running
        by_cases last : assembly.barrier.pending ≤ 1
        · simp only [Barrier.arrive_of_last last, settled, ↓reduceIte, Option.some.injEq] at stepped
          subst stepped
          have change := Change.arriveLast index running last
          rwa [released, set_self_of_getElem? running] at change
        · have others : 1 < assembly.barrier.pending := by omega
          simp only [Barrier.arrive_of_others others, settled, Bool.false_eq_true, ↓reduceIte,
            setParticipant, Option.some.injEq] at stepped
          subst stepped
          exact .arriveEarly index running others
      · simp at stepped
  | leave index =>
      simp only [step] at stepped
      split at stepped
      · rename_i running
        by_cases last : assembly.barrier.pending ≤ 1
        · simp only [Barrier.leave_of_last last, settled, ↓reduceIte, setParticipant,
            Option.some.injEq] at stepped
          subst stepped
          exact .leaveLast index running last
        · have others : 1 < assembly.barrier.pending := by omega
          simp only [Barrier.leave_of_others others, settled, Bool.false_eq_true, ↓reduceIte,
            setParticipant, Option.some.injEq] at stepped
          subst stepped
          exact .leaveEarly index running others
      · simp at stepped
  | wake index =>
      simp only [step] at stepped
      split at stepped
      · rename_i entered asleep
        simp only [Option.some.injEq] at stepped
        subst stepped
        exact .wake index entered asleep
      · simp at stepped
  | recheck index =>
      simp only [step] at stepped
      split at stepped
      · rename_i entered awake
        split at stepped
        · rename_i same
          subst same
          simp only [Option.some.injEq] at stepped
          subst stepped
          exact .sleepAgain index awake
        · rename_i different
          simp only [Option.some.injEq] at stepped
          subst stepped
          exact .goOn index entered awake different
      · simp at stepped

end TiledStream.Assembly
