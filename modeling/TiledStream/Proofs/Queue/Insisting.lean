import TiledStream.Proofs.Queue.Order
import TiledStream.Queue.Insisting

/-! A writer that insists on an event brings it into the queue exactly once, or gives up without a
trace: after an attempt that found the queue full, and only if the stream is cancelled. -/

namespace TiledStream.Insisting

open Waiting (AtLock pendingOf setWriter)

variable {α : Type} {setup : Setup α} {state next : State α} {action : Action α}
  {writer : Nat} {event : α}

structure Moment (α : Type) where
  before : State α
  action : Action α
  after : State α

def Action.writer? : Action α → Option Nat
  | .insist writer _ | .look writer => some writer
  | .queue action => action.writer?
  | .cancel => none

/-- The steps of a writer on an errand that is still under way, and the state that they led to
together with the steps of all others. -/
inductive UnderWay (setup : Setup α) (writer : Nat) (event : α) :
    List (Moment α) → State α → Prop where
  | begins {state next : State α} : Reachable setup state →
      step state (.insist writer event) = some next →
      UnderWay setup writer event
        [{ before := state, action := .insist writer event, after := next }] next
  | own {steps : List (Moment α)} {state next : State α} (action : Action α) :
      UnderWay setup writer event steps state → step state action = some next →
      action.writer? = some writer → next.returns = state.returns →
      UnderWay setup writer event (steps ++ [{ before := state, action, after := next }]) next
  | other {steps : List (Moment α)} {state next : State α} (action : Action α) :
      UnderWay setup writer event steps state → step state action = some next →
      action.writer? ≠ some writer → UnderWay setup writer event steps next

section Errands

def Errand.pending? : Errand α → Option (α × Bool)
  | .writing event => some (event, true)
  | .idle | .refused _ => none

def Errand.event? : Errand α → Option α
  | .idle => none
  | .writing event | .refused event => some event

def errandOf (state : State α) (writer : Nat) : Errand α := state.errands[writer]?.getD .idle

theorem errandOf_eq {errand : Errand α} (found : state.errands[writer]? = some errand) :
    errandOf state writer = errand := by
  rw [errandOf, found, Option.getD_some]

theorem found_of_errandOf {errand : Errand α} (same : errandOf state writer = errand)
    (busy : errand ≠ .idle) : state.errands[writer]? = some errand := by
  unfold errandOf at same
  cases found : state.errands[writer]? with
  | none =>
      rw [found] at same
      exact absurd same.symm busy
  | some other =>
      rw [found] at same
      exact congrArg some same

theorem errandOf_set {old new : Errand α} (found : state.errands[writer]? = some old)
    (moved : next.errands = state.errands.set writer new) : errandOf next writer = new := by
  rw [errandOf, moved, List.getElem?_set_self (List.getElem?_eq_some_iff.mp found).1,
    Option.getD_some]

theorem errandOf_set_ne {other : Nat} {new : Errand α} (elsewhere : writer ≠ other)
    (moved : next.errands = state.errands.set writer new) :
    errandOf next other = errandOf state other := by
  rw [errandOf, moved, List.getElem?_set_ne elsewhere, errandOf]

end Errands

structure Still (writer : Nat) (before after : Waiting.State α) : Prop where
  queue : after.queue = before.queue
  accepted : after.accepted = before.accepted
  taken : after.taken = before.taken
  readers : after.readers = before.readers
  others : ∀ other, other ≠ writer → after.writers[other]? = before.writers[other]?

theorem still_setWriter (before : Waiting.State α) (writer : Nat) (new : Waiting.Writer α) :
    Still writer before (setWriter before writer new) where
  queue := rfl
  accepted := rfl
  taken := rfl
  readers := rfl
  others _ elsewhere := List.getElem?_set_ne elsewhere.symm

def begun (state : State α) (writer : Nat) (event : α) : State α :=
  { state with
    waiting := setWriter state.waiting writer (.entering event true)
    errands := state.errands.set writer (.writing event) }

def takenIn (state : State α) (writer : Nat) (event : α) : State α :=
  finish
    { state with
      waiting := { setWriter state.waiting writer .idle with
        queue := { state.waiting.queue with items := state.waiting.queue.items ++ [event] }
        accepted := state.waiting.accepted ++ [event]
        outcomes := state.waiting.outcomes ++ [{ writer, item := event, written := true }] } }
    writer event (.ok ())

def handedBack (state : State α) (writer : Nat) (event : α) : State α :=
  { state with
    waiting := { setWriter state.waiting writer .idle with
      outcomes := state.waiting.outcomes ++ [{ writer, item := event, written := false }] }
    errands := state.errands.set writer (.refused event) }

theorem errandOf_finish {old : Errand α} (found : state.errands[writer]? = some old)
    (result : Except StreamError Unit) :
    errandOf (finish state writer event result) writer = .idle :=
  errandOf_set found rfl

theorem errandOf_begun {old : Errand α} (found : state.errands[writer]? = some old) :
    errandOf (begun state writer event) writer = .writing event :=
  errandOf_set found rfl

theorem errandOf_takenIn {old : Errand α} (found : state.errands[writer]? = some old) :
    errandOf (takenIn state writer event) writer = .idle :=
  errandOf_set found rfl

theorem errandOf_handedBack {old : Errand α} (found : state.errands[writer]? = some old) :
    errandOf (handedBack state writer event) writer = .refused event :=
  errandOf_set found rfl

inductive Change (state : State α) : Action α → State α → Prop where
  | began (writer : Nat) (event : α) :
      state.errands[writer]? = some .idle → state.waiting.writers[writer]? = some .idle →
      Change state (.insist writer event) (begun state writer event)
  | went (action : Waiting.Action α) (waiting : Waiting.State α) :
      (∀ other, pendingOf waiting other = pendingOf state.waiting other) →
      (∀ writer, action.writer? = some writer →
        Still writer state.waiting waiting ∧ pendingOf state.waiting writer ≠ none) →
      Change state (.queue action) { state with waiting }
  | wrote (writer : Nat) (event : α) (timed expired : Bool) :
      AtLock state.waiting writer event timed →
      state.waiting.queue.items.length < state.waiting.queue.capacity →
      Change state (.queue (.enter writer expired)) (takenIn state writer event)
  | refused (writer : Nat) (event : α) :
      AtLock state.waiting writer event true →
      state.waiting.queue.capacity ≤ state.waiting.queue.items.length →
      Change state (.queue (.enter writer true)) (handedBack state writer event)
  | gaveUp (writer : Nat) (event : α) :
      state.errands[writer]? = some (.refused event) → state.cancelled = true →
      Change state (.look writer) (finish state writer event (.error .aborted))
  | again (writer : Nat) (event : α) :
      state.errands[writer]? = some (.refused event) → state.cancelled = false →
      state.waiting.writers[writer]? = some .idle →
      Change state (.look writer) (begun state writer event)
  | cancelled : Change state .cancel { state with cancelled := true }

theorem write_eq_some (written : write state writer event = some next) :
    state.waiting.writers[writer]? = some .idle ∧ next = begun state writer event := by
  obtain ⟨waiting, called, rfl⟩ := Option.map_eq_some_iff.mp written
  cases Waiting.change_of_step called with
  | called _ _ _ idle => exact ⟨idle, rfl⟩

theorem change_of_quiet {action : Waiting.Action α} {waiting : Waiting.State α}
    (outcomes : waiting.outcomes = state.waiting.outcomes)
    (pending : ∀ other, pendingOf waiting other = pendingOf state.waiting other)
    (own : ∀ writer, action.writer? = some writer →
      Still writer state.waiting waiting ∧ pendingOf state.waiting writer ≠ none) :
    Change state (.queue action) (proceed state waiting) := by
  rw [proceed, outcomes, List.getElem?_eq_none (Nat.le_refl _)]
  exact .went action waiting pending own

theorem change_of_queue {action : Waiting.Action α} {waiting : Waiting.State α}
    (change : Waiting.Change state.waiting action waiting)
    (inside : ∀ writer item timed, action ≠ .call writer item timed) :
    Change state (.queue action) (proceed state waiting) := by
  cases change with
  | called writer item timed idle => exact absurd rfl (inside writer item timed)
  | wrote writer item timed expired atLock room =>
      simp only [proceed, List.getElem?_concat_length, ↓reduceIte]
      exact .wrote writer item timed expired atLock room
  | gaveUp writer item atLock full =>
      simp only [proceed, List.getElem?_concat_length, Bool.false_eq_true, ↓reduceIte]
      exact .refused writer item atLock full
  | slept writer item timed expired atLock full =>
      obtain ⟨old, found, pending⟩ := atLock.found
      refine change_of_quiet rfl
        (fun _ => Waiting.pendingOf_setWriter_same found pending.symm) fun own same => ?_
      obtain rfl := Option.some.inj same
      exact ⟨still_setWriter _ _ _, by simp [atLock.pendingOf]⟩
  | woke writer item timed asleep =>
      refine change_of_quiet rfl (fun _ => Waiting.pendingOf_setWriter_same asleep rfl)
        fun own same => ?_
      obtain rfl := Option.some.inj same
      exact ⟨still_setWriter _ _ _, by simp [pendingOf, asleep, Waiting.Writer.pending?]⟩
  | notified reader writer item timed notifying asleep =>
      exact change_of_quiet rfl (fun _ => Waiting.pendingOf_setWriter_same asleep rfl)
        fun _ own => by simp [Waiting.Action.writer?] at own
  | took | foundNothing | notifiedNobody =>
      exact change_of_quiet rfl (fun _ => rfl)
        fun _ own => by simp [Waiting.Action.writer?] at own

theorem change_of_step (stepped : step state action = some next) : Change state action next := by
  cases action with
  | insist writer event =>
      simp only [step] at stepped
      split at stepped
      · rename_i idle
        obtain ⟨atQueue, rfl⟩ := write_eq_some stepped
        exact .began writer event idle atQueue
      · simp at stepped
  | queue action =>
      simp only [step] at stepped
      split at stepped
      · simp at stepped
      · rename_i inside
        obtain ⟨waiting, moved, rfl⟩ := Option.map_eq_some_iff.mp stepped
        exact change_of_queue (Waiting.change_of_step moved) inside
  | look writer =>
      simp only [step] at stepped
      split at stepped
      · rename_i event refused
        split at stepped
        · rename_i cancelled
          obtain rfl := Option.some.inj stepped
          exact .gaveUp writer event refused cancelled
        · rename_i live
          obtain ⟨atQueue, rfl⟩ := write_eq_some stepped
          exact .again writer event refused (Bool.eq_false_iff.mpr live) atQueue
      · simp at stepped
  | cancel =>
      obtain rfl := Option.some.inj stepped
      exact .cancelled

def Matched (state : State α) : Prop :=
  ∀ writer, pendingOf state.waiting writer = (errandOf state writer).pending?

theorem Matched.errand {timed : Bool} (matched : Matched state)
    (atLock : AtLock state.waiting writer event timed) :
    timed = true ∧ state.errands[writer]? = some (.writing event) := by
  have pending := (matched writer).symm.trans atLock.pendingOf
  cases errand : errandOf state writer with
  | idle | refused => simp [errand, Errand.pending?] at pending
  | writing other =>
      simp only [errand, Errand.pending?, Option.some.injEq, Prod.mk.injEq] at pending
      obtain ⟨rfl, same⟩ := pending
      exact ⟨same.symm, found_of_errandOf errand (by simp)⟩

theorem Matched.set {old new : Waiting.Writer α} {before errand : Errand α}
    (matched : Matched state) (atQueue : state.waiting.writers[writer]? = some old)
    (found : state.errands[writer]? = some before)
    (moved : next.waiting.writers = state.waiting.writers.set writer new)
    (turned : next.errands = state.errands.set writer errand)
    (same : new.pending? = errand.pending?) : Matched next := by
  intro other
  have pending : pendingOf next.waiting other =
      pendingOf (setWriter state.waiting writer new) other := by
    simp only [pendingOf, moved, setWriter]
  rw [pending, Waiting.pendingOf_setWriter atQueue]
  by_cases here : writer = other
  · subst here
    rw [if_pos rfl, same, errandOf_set found turned]
  · rw [if_neg here, errandOf_set_ne here turned]
    exact matched other

theorem Matched.step (matched : Matched state) (change : Change state action next) :
    Matched next := by
  cases change with
  | began writer event idle atQueue => exact matched.set atQueue idle rfl rfl rfl
  | went action waiting pending own => exact fun other => (pending other).trans (matched other)
  | wrote writer event timed expired atLock room =>
      obtain ⟨old, atQueue, _⟩ := atLock.found
      exact matched.set atQueue (matched.errand atLock).2 rfl rfl rfl
  | refused writer event atLock full =>
      obtain ⟨old, atQueue, _⟩ := atLock.found
      exact matched.set atQueue (matched.errand atLock).2 rfl rfl rfl
  | gaveUp writer event refused cancelled =>
      intro other
      have before : pendingOf state.waiting other = (errandOf state other).pending? := matched other
      by_cases here : writer = other
      · subst here
        rw [errandOf_finish refused]
        rwa [errandOf_eq refused] at before
      · rwa [errandOf_set_ne here rfl]
  | again writer event refused live atQueue => exact matched.set atQueue refused rfl rfl rfl
  | cancelled => exact matched

theorem Reachable.matched (reached : Reachable setup state) : Matched state := by
  induction reached with
  | start =>
      intro writer
      by_cases bound : writer < setup.writers <;>
        simp [pendingOf, errandOf, Insisting.start, bound, Waiting.Writer.pending?, Errand.pending?]
  | step action _ stepped ih => exact ih.step (change_of_step stepped)

structure Spares (writer : Nat) (before after : State α) : Prop where
  still : Still writer before.waiting after.waiting
  cancelled : after.cancelled = before.cancelled
  errands : ∀ other, other ≠ writer → errandOf after other = errandOf before other

theorem spares_of_set {errand : Errand α} (still : Still writer state.waiting next.waiting)
    (cancelled : next.cancelled = state.cancelled)
    (moved : next.errands = state.errands.set writer errand) : Spares writer state next where
  still := still
  cancelled := cancelled
  errands _ elsewhere := errandOf_set_ne elsewhere.symm moved

theorem Change.spares (change : Change state action next)
    (own : action.writer? = some writer)
    (accepted : next.waiting.accepted = state.waiting.accepted) : Spares writer state next := by
  cases change with
  | went action waiting _ still =>
      exact { still := (still _ own).1, cancelled := rfl, errands := fun _ _ => rfl }
  | wrote _ event timed expired atLock room => simp [takenIn, finish] at accepted
  | refused actor event atLock full =>
      obtain rfl := Option.some.inj own
      have moved := still_setWriter state.waiting actor .idle
      exact spares_of_set
        ⟨moved.queue, moved.accepted, moved.taken, moved.readers, moved.others⟩ rfl rfl
  | began _ event found atQueue | again _ event found live atQueue =>
      obtain rfl := Option.some.inj own
      exact spares_of_set (still_setWriter _ _ _) rfl rfl
  | gaveUp _ event found cancelled =>
      obtain rfl := Option.some.inj own
      exact spares_of_set ⟨rfl, rfl, rfl, rfl, fun _ _ => rfl⟩ rfl rfl
  | cancelled => exact nomatch own

theorem errandOf_elsewhere (change : Change state action next)
    (other : action.writer? ≠ some writer) : errandOf next writer = errandOf state writer := by
  have apart {actor : Nat} (own : action.writer? = some actor) : actor ≠ writer := by
    rintro rfl
    exact other own
  cases change with
  | went | cancelled => rfl
  | began | wrote | refused | gaveUp | again => exact errandOf_set_ne (apart rfl) rfl

/-- The latest of some steps is an attempt to write at whose deadline the queue was full. -/
def EndsFull (writer : Nat) (steps : List (Moment α)) : Prop :=
  ∃ earlier attempt, steps = earlier ++ [attempt] ∧
    attempt.action = .queue (.enter writer true) ∧ attempt.before.waiting.queue.isFull = true

/-- The steps of an errand so far: they left everything else alone, and a writer that has its event
back got it from an attempt. -/
structure Tried (writer : Nat) (event : α) (steps : List (Moment α)) (state : State α) :
    Prop where
  spares : ∀ moment ∈ steps, Spares writer moment.before moment.after
  errand : errandOf state writer = .writing event ∨
    errandOf state writer = .refused event ∧ EndsFull writer steps

theorem Tried.own {steps : List (Moment α)} (tried : Tried writer event steps state)
    (matched : Matched state) (change : Change state action next)
    (own : action.writer? = some writer) (same : next.returns = state.returns) :
    Tried writer event (steps ++ [{ before := state, action, after := next }]) next := by
  have found {errand : Errand α} (at_writer : state.errands[writer]? = some errand) :
      errand = .writing event ∨ errand = .refused event := by
    rw [← errandOf_eq at_writer]
    exact tried.errand.imp_right And.left
  have spares (accepted : next.waiting.accepted = state.waiting.accepted) :
      ∀ moment ∈ steps ++ [{ before := state, action, after := next }],
        Spares writer moment.before moment.after := by
    intro moment member
    rcases List.mem_append.mp member with before | here
    · exact tried.spares moment before
    · rw [List.mem_singleton.mp here]
      exact change.spares own accepted
  cases change with
  | began _ other idle =>
      obtain rfl := Option.some.inj own
      exact absurd (found idle) (by simp)
  | went _ waiting pending still =>
      obtain ⟨moved, busy⟩ := still _ own
      refine ⟨spares moved.accepted, tried.errand.imp_right fun refused => ?_⟩
      -- A writer that has its event back is in no write.
      have idle := matched writer
      rw [refused.1] at idle
      exact absurd idle busy
  | wrote | gaveUp => simp [takenIn, finish] at same
  | refused _ other atLock full =>
      obtain rfl := Option.some.inj own
      have writing := (matched.errand atLock).2
      obtain rfl : other = event := by simpa using found writing
      refine ⟨spares rfl, .inr ⟨?_, _, _, rfl, rfl, by simpa [BoundedQueue.isFull] using full⟩⟩
      exact errandOf_handedBack writing
  | again _ other refused live atQueue =>
      obtain rfl := Option.some.inj own
      obtain rfl : other = event := by simpa using found refused
      exact ⟨spares rfl, .inl (errandOf_begun refused)⟩
  | cancelled => simp [Action.writer?] at own

theorem UnderWay.reachable {steps : List (Moment α)}
    (underWay : UnderWay setup writer event steps state) : Reachable setup state := by
  induction underWay with
  | begins reached stepped => exact reached.step _ stepped
  | own action _ stepped _ _ ih => exact ih.step action stepped
  | other action _ stepped _ ih => exact ih.step action stepped

theorem UnderWay.tried {steps : List (Moment α)}
    (underWay : UnderWay setup writer event steps state) : Tried writer event steps state := by
  induction underWay with
  | @begins before next reached stepped =>
      have change := change_of_step stepped
      refine ⟨fun moment member => ?_, .inl ?_⟩
      · rw [List.mem_singleton.mp member]
        exact change.spares rfl (by cases change; rfl)
      · cases change with
        | began _ _ idle => exact errandOf_begun idle
  | own action before stepped own same ih =>
      exact ih.own before.reachable.matched (change_of_step stepped) own same
  | other action before stepped other ih =>
      refine ⟨ih.spares, ?_⟩
      rw [errandOf_elsewhere (change_of_step stepped) other]
      exact ih.errand

theorem Reachable.underWay (reached : Reachable setup state)
    (busy : (errandOf state writer).event? = some event) :
    ∃ steps, UnderWay setup writer event steps state := by
  induction reached generalizing event with
  | start =>
      have idle : errandOf (Insisting.start setup) writer = .idle := by
        by_cases bound : writer < setup.writers <;> simp [errandOf, Insisting.start, bound]
      rw [idle] at busy
      exact nomatch busy
  | @step before next action reached stepped ih =>
      have change := change_of_step stepped
      by_cases own : action.writer? = some writer
      · have goesOn (same : next.returns = before.returns)
            (still : (errandOf before writer).event? = some event) :
            ∃ steps, UnderWay setup writer event steps next := by
          obtain ⟨steps, underWay⟩ := ih still
          exact ⟨_, underWay.own action stepped own same⟩
        cases change with
        | began _ other idle =>
            obtain rfl := Option.some.inj own
            rw [errandOf_begun idle] at busy
            obtain rfl := Option.some.inj busy
            exact ⟨_, .begins reached stepped⟩
        | went _ waiting pending still => exact goesOn rfl busy
        | wrote _ other timed expired atLock room =>
            obtain rfl := Option.some.inj own
            rw [errandOf_takenIn (reached.matched.errand atLock).2] at busy
            exact nomatch busy
        | refused _ other atLock full =>
            obtain rfl := Option.some.inj own
            have writing := (reached.matched.errand atLock).2
            rw [errandOf_handedBack writing] at busy
            exact goesOn rfl (by rw [errandOf_eq writing]; exact busy)
        | gaveUp _ other refused cancelled =>
            obtain rfl := Option.some.inj own
            rw [errandOf_finish refused] at busy
            exact nomatch busy
        | again _ other refused live atQueue =>
            obtain rfl := Option.some.inj own
            rw [errandOf_begun refused] at busy
            exact goesOn rfl (by rw [errandOf_eq refused]; exact busy)
        | cancelled => exact nomatch own
      · rw [errandOf_elsewhere change own] at busy
        obtain ⟨steps, underWay⟩ := ih busy
        exact ⟨steps, underWay.other action stepped own⟩

inductive Ends (writer : Nat) (event : α) (steps : List (Moment α)) (state next : State α) :
    Except StreamError Unit → Prop where
  | written : (∀ moment ∈ steps, Spares writer moment.before moment.after) →
      next.waiting.queue.items = state.waiting.queue.items ++ [event] →
      next.waiting.accepted = state.waiting.accepted ++ [event] →
      Ends writer event steps state next (.ok ())
  | abandoned : (∀ moment ∈ steps, Spares writer moment.before moment.after) →
      Spares writer state next → EndsFull writer steps → state.cancelled = true →
      Ends writer event steps state next (.error .aborted)

theorem Reachable.ends (reached : Reachable setup state)
    (stepped : Insisting.step state action = some next) :
    next.returns = state.returns ∨
      ∃ writer event result steps,
        next.returns = state.returns ++ [{ writer := writer, event, result }] ∧
        action.writer? = some writer ∧ UnderWay setup writer event steps state ∧
        Ends writer event steps state next result := by
  have change := change_of_step stepped
  cases change with
  | wrote writer event timed expired atLock room =>
      have writing := (reached.matched.errand atLock).2
      have busy : (errandOf state writer).event? = some event := by
        rw [errandOf_eq writing]
        rfl
      obtain ⟨steps, underWay⟩ := reached.underWay busy
      exact .inr ⟨writer, event, .ok (), steps, rfl, rfl, underWay,
        .written underWay.tried.spares rfl rfl⟩
  | gaveUp writer event refused cancelled =>
      have busy : (errandOf state writer).event? = some event := by
        rw [errandOf_eq refused]
        rfl
      obtain ⟨steps, underWay⟩ := reached.underWay busy
      have attempted : EndsFull writer steps := by
        have errand := underWay.tried.errand
        rw [errandOf_eq refused] at errand
        exact (errand.resolve_left (by simp)).2
      exact .inr ⟨writer, event, .error .aborted, steps, rfl, rfl, underWay,
        .abandoned underWay.tried.spares
          ((Change.gaveUp writer event refused cancelled).spares rfl rfl) attempted
          cancelled⟩
  | _ => exact .inl rfl

theorem step_of_room {timed : Bool} (atLock : AtLock state.waiting writer event timed)
    (room : state.waiting.queue.isFull = false) (expired : Bool) :
    step state (.queue (.enter writer expired)) = some (takenIn state writer event) := by
  rcases atLock with found | found
  all_goals
    simp [step, Waiting.step, found, Waiting.attempt, BoundedQueue.write?, BoundedQueue.append,
      room, proceed, takenIn]

theorem step_of_full (atLock : AtLock state.waiting writer event true)
    (full : state.waiting.queue.isFull = true) :
    step state (.queue (.enter writer true)) = some (handedBack state writer event) := by
  rcases atLock with found | found
  all_goals
    simp [step, Waiting.step, found, Waiting.attempt, BoundedQueue.write?, full, proceed,
      handedBack]

/-- An attempt at its deadline and the look at the stream after it, with nothing in between. -/
def tryOnce (state : State α) (writer : Nat) : Option (State α) :=
  (step state (.queue (.enter writer true))).bind fun between =>
    match errandOf between writer with
    | .refused _ => step between (.look writer)
    | _ => some between

def Follows (state next : State α) (writer : Nat) (event : α) : BoundedQueue.Attempt α → Prop
  | .written queue =>
    next.waiting.queue = queue ∧
      next.returns = state.returns ++ [{ writer, event, result := .ok () }]
  | .abandoned =>
    next.waiting.queue = state.waiting.queue ∧
      next.returns = state.returns ++ [{ writer, event, result := .error .aborted }]
  | .again =>
    next.waiting.queue = state.waiting.queue ∧ next.returns = state.returns ∧
      errandOf next writer = .writing event

theorem tryOnce_follows {timed : Bool} (matched : Matched state)
    (atLock : AtLock state.waiting writer event timed) :
    ∃ next, tryOnce state writer = some next ∧
      Follows state next writer event (state.waiting.queue.attempt event state.cancelled) := by
  obtain ⟨rfl, writing⟩ := matched.errand atLock
  obtain ⟨old, atQueue, _⟩ := atLock.found
  cases full : state.waiting.queue.isFull with
  | false =>
      have free : errandOf (takenIn state writer event) writer = .idle := errandOf_takenIn writing
      refine ⟨takenIn state writer event, ?_, ?_⟩
      · rw [tryOnce, step_of_room atLock full, Option.bind_some, free]
      · simp only [BoundedQueue.attempt, BoundedQueue.write?, full, Bool.false_eq_true, ↓reduceIte,
          Follows]
        exact ⟨by simp [takenIn, finish, BoundedQueue.append, full], rfl⟩
  | true =>
      have refused : (handedBack state writer event).errands[writer]? = some (.refused event) :=
        List.getElem?_set_self (List.getElem?_eq_some_iff.mp writing).1
      have idle : (handedBack state writer event).waiting.writers[writer]? = some .idle :=
        List.getElem?_set_self (List.getElem?_eq_some_iff.mp atQueue).1
      have tried : tryOnce state writer = step (handedBack state writer event) (.look writer) := by
        rw [tryOnce, step_of_full atLock full, Option.bind_some, errandOf_eq refused]
      simp only [tried, BoundedQueue.attempt, BoundedQueue.write?, full, ↓reduceIte]
      cases cancelled : state.cancelled with
      | true =>
          refine ⟨finish (handedBack state writer event) writer event (.error .aborted), ?_, rfl,
            rfl⟩
          simp only [step, refused]
          exact if_pos cancelled
      | false =>
          refine ⟨begun (handedBack state writer event) writer event, ?_, rfl, rfl, ?_⟩
          · simp only [step, refused]
            rw [if_neg (by simp [handedBack, cancelled])]
            simp [write, Waiting.step, idle, begun]
          · exact errandOf_begun refused

/-- A writer returns at the end of one errand, of which no earlier step touched the queue. Either
the queue takes the event in with that step, or the stream is cancelled, the queue was full at the
latest attempt, and no step of the errand changed anything else. An attempt that finds room brings
the event in whether or not the stream is cancelled, and one with nothing between it and the look
after it is the attempt of a queue. -/
theorem written_once_or_abandoned (reached : Reachable setup state) :
    (∀ action next, step state action = some next →
      next.returns = state.returns ∨
        ∃ writer event result steps,
          next.returns = state.returns ++ [{ writer := writer, event, result }] ∧
          action.writer? = some writer ∧ UnderWay setup writer event steps state ∧
          Ends writer event steps state next result) ∧
    (∀ writer event timed expired, AtLock state.waiting writer event timed →
      state.waiting.queue.isFull = false →
      ∃ next, step state (.queue (.enter writer expired)) = some next ∧
        next.waiting.queue.items = state.waiting.queue.items ++ [event] ∧
        next.returns = state.returns ++ [{ writer, event, result := .ok () }]) ∧
    ∀ writer event timed, AtLock state.waiting writer event timed →
      ∃ next, tryOnce state writer = some next ∧
        Follows state next writer event (state.waiting.queue.attempt event state.cancelled) := by
  refine ⟨fun action next stepped => reached.ends stepped, ?_, ?_⟩
  · intro writer event timed expired atLock room
    exact ⟨_, step_of_room atLock room expired, rfl, rfl⟩
  · intro writer event timed atLock
    exact tryOnce_follows reached.matched atLock

def crowded : Setup Nat :=
  { queue := { capacity := 1, items := [5] }, cancelled := false, writers := 1, readers := 1 }

/-- The writer gives up although a reader made room meanwhile, for the stream was cancelled after
the attempt. -/
theorem abandoned_of_crowded :
    ∃ state next : State Nat, Reachable crowded state ∧ state.cancelled = true ∧
      state.waiting.queue.isFull = false ∧ step state (.look 0) = some next ∧
      ∃ steps, UnderWay crowded 0 6 steps state ∧
        Ends 0 6 steps state next (.error .aborted) := by
  have reached : Reachable crowded _ :=
    ((((Reachable.start.step (.insist 0 6) rfl).step (.queue (.enter 0 true)) rfl).step
      (.queue (.read 0)) rfl).step .cancel rfl)
  obtain ⟨same | ⟨writer, event, result, steps, grown, _, underWay, ends⟩, _⟩ :=
    (written_once_or_abandoned reached).imp_left fun ends => ends (.look 0) _ rfl
  · exact absurd (congrArg List.length same) (by decide)
  · have returned : ([⟨0, 6, .error .aborted⟩] : List (Return Nat)) = [⟨writer, event, result⟩] :=
      grown
    obtain ⟨rfl, rfl, rfl⟩ := Return.mk.inj (List.singleton_inj.mp returned)
    exact ⟨_, _, reached, rfl, rfl, rfl, steps, underWay, ends⟩

end TiledStream.Insisting
