import TiledStream.Queue.Waiting

/-! Runs of the writers and readers of a queue with their past, and all that a step can do. -/

namespace TiledStream.Waiting

variable {α : Type}

structure Moment (α : Type) where
  before : State α
  action : Action α
  after : State α

def Action.writer? : Action α → Option Nat
  | .call writer _ _ | .enter writer _ | .wake writer => some writer
  | .read _ | .notify _ _ => none

namespace Moment

def called? (moment : Moment α) : Option α :=
  match moment.action with
  | .call _ item _ => some item
  | _ => none

def begins (moment : Moment α) (writer : Nat) : Bool :=
  match moment.action with
  | .call caller _ _ => caller == writer
  | _ => false

def Spares (moment : Moment α) : Prop :=
  moment.after.queue = moment.before.queue ∧ moment.after.accepted = moment.before.accepted

end Moment

inductive Run (capacity writers readers : Nat) : List (Moment α) → State α → Prop where
  | start : Run capacity writers readers [] (start capacity writers readers)
  | step {past : List (Moment α)} {state next : State α} (action : Action α) :
      Run capacity writers readers past state → step state action = some next →
      Run capacity writers readers (past ++ [{ before := state, action, after := next }]) next

theorem reachable_iff_run {capacity writers readers : Nat} {state : State α} :
    Reachable capacity writers readers state ↔
      ∃ past, Run capacity writers readers past state := by
  constructor
  · intro reached
    induction reached with
    | start => exact ⟨[], .start⟩
    | step action _ stepped ih =>
        obtain ⟨past, run⟩ := ih
        exact ⟨_, run.step action stepped⟩
  · rintro ⟨past, run⟩
    induction run with
    | start => exact .start
    | step action _ stepped ih => exact ih.step action stepped

def called (past : List (Moment α)) : List α := past.filterMap Moment.called?

def latestCall (past : List (Moment α)) (writer : Nat) : List (Moment α) :=
  past.foldl (fun call moment =>
    if moment.begins writer then [moment]
    else if moment.action.writer? = some writer then call ++ [moment]
    else call) []

/-- The item that a writer has not brought into the queue yet, and whether it waits for so long
only. -/
def Writer.pending? : Writer α → Option (α × Bool)
  | .idle => none
  | .entering item timed | .asleep item timed | .woken item timed => some (item, timed)

def held (state : State α) : List α :=
  state.writers.flatMap fun writer => (writer.pending?.map Prod.fst).toList

def handedBack (state : State α) : List α :=
  (state.outcomes.filter fun outcome => !outcome.written).map (·.item)

variable {state next : State α} {action : Action α} {past : List (Moment α)} {moment : Moment α}
  {writer : Nat}

theorem called_append : called (past ++ [moment]) = called past ++ moment.called?.toList := by
  cases brings : moment.called? <;> simp [called, brings]

theorem latestCall_append :
    latestCall (past ++ [moment]) writer =
      if moment.begins writer then [moment]
      else if moment.action.writer? = some writer then latestCall past writer ++ [moment]
      else latestCall past writer := by
  simp only [latestCall, List.foldl_append, List.foldl_cons, List.foldl_nil]

def AtLock (state : State α) (writer : Nat) (item : α) (timed : Bool) : Prop :=
  state.writers[writer]? = some (.entering item timed) ∨
    state.writers[writer]? = some (.woken item timed)

inductive Change (state : State α) : Action α → State α → Prop where
  | called (writer : Nat) (item : α) (timed : Bool) : state.writers[writer]? = some .idle →
      Change state (.call writer item timed) (setWriter state writer (.entering item timed))
  | wrote (writer : Nat) (item : α) (timed expired : Bool) : AtLock state writer item timed →
      state.queue.items.length < state.queue.capacity →
      Change state (.enter writer expired) { setWriter state writer .idle with
        queue := { state.queue with items := state.queue.items ++ [item] }
        accepted := state.accepted ++ [item]
        outcomes := state.outcomes ++ [{ writer, item, written := true }] }
  | gaveUp (writer : Nat) (item : α) : AtLock state writer item true →
      state.queue.capacity ≤ state.queue.items.length →
      Change state (.enter writer true) { setWriter state writer .idle with
        outcomes := state.outcomes ++ [{ writer, item, written := false }] }
  | slept (writer : Nat) (item : α) (timed expired : Bool) : AtLock state writer item timed →
      state.queue.capacity ≤ state.queue.items.length →
      Change state (.enter writer expired) (setWriter state writer (.asleep item timed))
  | woke (writer : Nat) (item : α) (timed : Bool) :
      state.writers[writer]? = some (.asleep item timed) →
      Change state (.wake writer) (setWriter state writer (.woken item timed))
  | took (reader : Nat) (item : α) (rest : List α) : state.readers[reader]? = some .idle →
      state.queue.items = item :: rest →
      Change state (.read reader) { state with
        queue := { state.queue with items := rest }
        readers := state.readers.set reader .notifying
        taken := state.taken ++ [item] }
  | foundNothing (reader : Nat) : state.readers[reader]? = some .idle →
      Change state (.read reader) state
  | notified (reader writer : Nat) (item : α) (timed : Bool) :
      state.readers[reader]? = some .notifying →
      state.writers[writer]? = some (.asleep item timed) →
      Change state (.notify reader writer)
        (setWriter { state with readers := state.readers.set reader .idle } writer
          (.woken item timed))
  | notifiedNobody (reader writer : Nat) : state.readers[reader]? = some .notifying →
      (∀ writer ∈ state.writers, isAsleep writer = false) →
      Change state (.notify reader writer) { state with readers := state.readers.set reader .idle }

theorem change_of_attempt {item : α} {timed : Bool} (expired : Bool)
    (atLock : AtLock state writer item timed) :
    Change state (.enter writer expired) (attempt state writer item timed expired) := by
  by_cases full : state.queue.capacity ≤ state.queue.items.length
  · by_cases elapsed : timed = true ∧ expired = true
    · obtain ⟨rfl, rfl⟩ := elapsed
      simp only [attempt, BoundedQueue.write?, BoundedQueue.isFull, full, decide_true, ↓reduceIte,
        Bool.and_self]
      exact .gaveUp writer item atLock full
    · rw [← Bool.and_eq_true] at elapsed
      simp only [attempt, BoundedQueue.write?, BoundedQueue.isFull, full, decide_true, ↓reduceIte,
        elapsed]
      exact .slept writer item timed expired atLock full
  · simp only [attempt, BoundedQueue.write?, BoundedQueue.append, BoundedQueue.isFull, full,
      decide_false, Bool.false_eq_true, ↓reduceIte]
    exact .wrote writer item timed expired atLock (by omega)

theorem change_of_step (stepped : step state action = some next) : Change state action next := by
  cases action with
  | call writer item timed =>
      simp only [step] at stepped
      split at stepped
      · rename_i idle
        obtain rfl := Option.some.inj stepped
        exact .called writer item timed idle
      · simp at stepped
  | enter writer expired =>
      simp only [step] at stepped
      split at stepped
      · rename_i item timed entering
        obtain rfl := Option.some.inj stepped
        exact change_of_attempt expired (.inl entering)
      · rename_i item timed woken
        obtain rfl := Option.some.inj stepped
        exact change_of_attempt expired (.inr woken)
      · simp at stepped
  | wake writer =>
      simp only [step] at stepped
      split at stepped
      · rename_i item timed asleep
        obtain rfl := Option.some.inj stepped
        exact .woke writer item timed asleep
      · simp at stepped
  | read reader =>
      simp only [step] at stepped
      split at stepped
      · rename_i idle
        cases items : state.queue.items with
        | nil =>
            simp only [BoundedQueue.take, items, Option.some.injEq] at stepped
            subst stepped
            exact .foundNothing reader idle
        | cons item rest =>
            simp only [BoundedQueue.take, items, Option.some.injEq] at stepped
            subst stepped
            exact .took reader item rest idle items
      · simp at stepped
  | notify reader writer =>
      simp only [step] at stepped
      split at stepped
      · rename_i notifying
        split at stepped
        · split at stepped
          · rename_i item timed asleep
            obtain rfl := Option.some.inj stepped
            exact .notified reader writer item timed notifying asleep
          · simp at stepped
        · rename_i nobody
          obtain rfl := Option.some.inj stepped
          exact .notifiedNobody reader writer notifying (by simpa using nobody)
      · simp at stepped

end TiledStream.Waiting
