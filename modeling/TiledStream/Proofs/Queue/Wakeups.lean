import TiledStream.Proofs.Exchange
import TiledStream.Proofs.Queue.Order

/-! No wake-up is lost: beside a sleeping writer, every free slot has a writer that is already awake
or a reader that is about to wake one. -/

namespace TiledStream.Waiting

variable {α : Type} {capacity writers readers : Nat} {state next : State α} {action : Action α}
  {writer : Nat} {item : α} {timed : Bool}

def isWoken : Writer α → Bool
  | .woken _ _ => true
  | _ => false

def isNotifying : Reader → Bool
  | .notifying => true
  | .idle => false

def wokenCount (state : State α) : Nat := state.writers.countP isWoken

def notifyingCount (state : State α) : Nat := state.readers.countP isNotifying

def freeSlots (state : State α) : Nat := state.queue.capacity - state.queue.items.length

def SomeAsleep (state : State α) : Prop := ∃ writer ∈ state.writers, isAsleep writer = true

theorem someAsleep_of_setWriter {new : Writer α} (awake : isAsleep new = false)
    (asleep : SomeAsleep (setWriter state writer new)) : SomeAsleep state := by
  obtain ⟨sleeper, member, sleeps⟩ := asleep
  rcases List.mem_or_eq_of_mem_set member with before | rfl
  · exact ⟨sleeper, before, sleeps⟩
  · rw [awake] at sleeps
    exact Bool.noConfusion sleeps

/-- A free slot beside a sleeping writer has somebody who sees to it. -/
def Attended (state : State α) : Prop :=
  SomeAsleep state →
    state.queue.capacity ≤ state.queue.items.length + wokenCount state + notifyingCount state

theorem Attended.step (attended : Attended state) (change : Change state action next) :
    Attended next := by
  intro asleep
  cases change with
  | called writer item timed idle =>
      have before := attended (someAsleep_of_setWriter rfl asleep)
      have same : (state.writers.set writer (.entering item timed)).countP isWoken =
          state.writers.countP isWoken := countP_set_add isWoken idle (.entering item timed)
      simp only [wokenCount, notifyingCount, setWriter] at before ⊢
      omega
  | wrote writer item timed expired atLock room =>
      -- The writer that takes the slot is at most one of those that were awake for it.
      have before := attended (someAsleep_of_setWriter rfl asleep)
      obtain ⟨old, found, _⟩ := atLock.found
      have once := Bool.toNat_le (isWoken old)
      have fewer : (state.writers.set writer .idle).countP isWoken + (isWoken old).toNat =
          state.writers.countP isWoken := countP_set_add isWoken found .idle
      simp only [wokenCount, notifyingCount, setWriter, List.length_append,
        List.length_singleton] at before ⊢
      omega
  | gaveUp writer item atLock full | slept writer item timed expired atLock full =>
      simp only [setWriter]
      omega
  | woke writer item timed sleeping =>
      have before := attended ⟨_, List.mem_of_getElem? sleeping, rfl⟩
      have more : (state.writers.set writer (.woken item timed)).countP isWoken =
          state.writers.countP isWoken + 1 := countP_set_add isWoken sleeping (.woken item timed)
      simp only [wokenCount, notifyingCount, setWriter] at before ⊢
      omega
  | took reader item rest idle items =>
      have before := attended asleep
      have more : (state.readers.set reader .notifying).countP isNotifying =
          state.readers.countP isNotifying + 1 := countP_set_add isNotifying idle .notifying
      simp only [wokenCount, notifyingCount, items, List.length_cons] at before ⊢
      omega
  | foundNothing reader idle => exact attended asleep
  | notified reader writer item timed notifying sleeping =>
      have before := attended ⟨_, List.mem_of_getElem? sleeping, rfl⟩
      have more : (state.writers.set writer (.woken item timed)).countP isWoken =
          state.writers.countP isWoken + 1 := countP_set_add isWoken sleeping (.woken item timed)
      have fewer : (state.readers.set reader .idle).countP isNotifying + 1 =
          state.readers.countP isNotifying := countP_set_add isNotifying notifying .idle
      simp only [wokenCount, notifyingCount, setWriter] at before ⊢
      omega
  | notifiedNobody reader writer notifying nobody =>
      obtain ⟨sleeper, member, sleeps⟩ := asleep
      rw [nobody sleeper member] at sleeps
      exact Bool.noConfusion sleeps

theorem Reachable.attended (reached : Reachable capacity writers readers state) :
    Attended state := by
  induction reached with
  | start =>
      rintro ⟨sleeper, member, sleeps⟩
      obtain rfl := List.eq_of_mem_replicate member
      exact Bool.noConfusion sleeps
  | step action _ stepped ih => exact ih.step (change_of_step stepped)

theorem writers_length_of_change (change : Change state action next) :
    next.writers.length = state.writers.length := by
  cases change <;> simp [setWriter]

theorem Reachable.writers_length (reached : Reachable capacity writers readers state) :
    state.writers.length = writers := by
  induction reached with
  | start => exact List.length_replicate
  | step action _ stepped ih => rw [writers_length_of_change (change_of_step stepped), ih]

theorem wokenCount_of_alone (alone : state.writers.length = 1) (asleep : SomeAsleep state) :
    wokenCount state = 0 := by
  obtain ⟨only, same⟩ := List.length_eq_one_iff.mp alone
  obtain ⟨sleeper, member, sleeps⟩ := asleep
  rw [same, List.mem_singleton] at member
  subst member
  rw [wokenCount, same]
  cases sleeper <;> simp_all [isAsleep, isWoken]

/-- Beside a sleeping writer there are no more free slots than writers that are awake and readers
that are about to wake one. A writer that is the only one sleeps beside a full queue, unless a
reader is about to wake it. -/
theorem free_slots_attended (reached : Reachable capacity writers readers state)
    (asleep : SomeAsleep state) :
    freeSlots state ≤ wokenCount state + notifyingCount state ∧
    (writers = 1 → notifyingCount state = 0 →
      state.queue.items.length = capacity ∧ state.queue.isFull = true) := by
  have attended := reached.attended asleep
  obtain ⟨past, run⟩ := reachable_iff_run.mp reached
  have size := run.kept.size
  have bound := run.kept.bound
  constructor
  · unfold freeSlots
    omega
  · intro alone quiet
    have woken := wokenCount_of_alone (reached.writers_length.trans alone) asleep
    have full : state.queue.items.length = capacity := by omega
    exact ⟨full, by simp [BoundedQueue.isFull, size, full]⟩

theorem free_slot_attended_by_woken :
    ∃ state : State Nat, Reachable 1 3 1 state ∧ SomeAsleep state ∧ freeSlots state = 1 ∧
      wokenCount state = 1 ∧ freeSlots state ≤ wokenCount state + notifyingCount state := by
  obtain ⟨state, reached, asleep, free, woken⟩ :
      ∃ state : State Nat, Reachable 1 3 1 state ∧ SomeAsleep state ∧ freeSlots state = 1 ∧
        wokenCount state = 1 :=
    ⟨_, ((((((((Reachable.start (α := Nat)).step (.call 0 5 false) rfl).step (.enter 0 false)
      rfl).step (.call 1 6 true) rfl).step (.enter 1 false) rfl).step (.call 2 7 false) rfl).step
      (.enter 2 false) rfl).step (.read 0) rfl).step (.notify 0 2) rfl,
      ⟨.asleep 6 true, by decide, rfl⟩, rfl, rfl⟩
  exact ⟨state, reached, asleep, free, woken, (free_slots_attended reached asleep).1⟩

end TiledStream.Waiting
