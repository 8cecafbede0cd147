import TiledStream.Proofs.Queue.History

/-! A queue keeps the items of its writers in order. Every item that a call brought along is with a
reader, in the queue, back with its caller, or still on its way, and in one of these places only. -/

namespace TiledStream.Waiting

variable {α : Type} {capacity writers readers : Nat} {state next : State α} {action : Action α}
  {past : List (Moment α)} {moment : Moment α} {writer other : Nat} {item : α} {timed : Bool}

theorem flatMap_set_perm {Source Target : Type} (view : Source → List Target)
    {items : List Source} {index : Nat} {old : Source} (found : items[index]? = some old)
    (new : Source) :
    ((items.set index new).flatMap view ++ view old).Perm (items.flatMap view ++ view new) := by
  induction items generalizing index with
  | nil => simp at found
  | cons head rest ih =>
      cases index with
      | zero =>
          obtain rfl : head = old := Option.some.inj found
          rw [List.set_cons_zero, List.flatMap_cons, List.flatMap_cons, List.append_assoc]
          calc
            (view new ++ (rest.flatMap view ++ view head)).Perm
                ((rest.flatMap view ++ view head) ++ view new) := List.perm_append_comm
            List.Perm _ ((view head ++ rest.flatMap view) ++ view new) :=
                List.perm_append_comm.append_right _
      | succ index =>
          rw [List.set_cons_succ, List.flatMap_cons, List.flatMap_cons, List.append_assoc,
            List.append_assoc]
          exact (ih found).append_left _

theorem held_setWriter {old : Writer α} (found : state.writers[writer]? = some old)
    (new : Writer α) :
    (held (setWriter state writer new) ++ (old.pending?.map Prod.fst).toList).Perm
      (held state ++ (new.pending?.map Prod.fst).toList) :=
  flatMap_set_perm _ found new

theorem held_setWriter_same {old new : Writer α} (found : state.writers[writer]? = some old)
    (same : new.pending? = old.pending?) :
    (held (setWriter state writer new)).Perm (held state) := by
  have moved := held_setWriter found new
  rw [same] at moved
  exact (List.perm_append_right_iff _).mp moved

def pendingOf (state : State α) (writer : Nat) : Option (α × Bool) :=
  state.writers[writer]?.bind Writer.pending?

theorem pendingOf_setWriter {old new : Writer α} (found : state.writers[writer]? = some old) :
    pendingOf (setWriter state writer new) other =
      if writer = other then new.pending? else pendingOf state other := by
  by_cases here : writer = other
  · subst here
    rw [if_pos rfl, pendingOf, setWriter,
      List.getElem?_set_self (List.getElem?_eq_some_iff.mp found).1, Option.bind_some]
  · rw [if_neg here, pendingOf, setWriter, List.getElem?_set_ne here, pendingOf]

theorem pendingOf_setWriter_same {old new : Writer α} (found : state.writers[writer]? = some old)
    (same : new.pending? = old.pending?) :
    pendingOf (setWriter state writer new) other = pendingOf state other := by
  rw [pendingOf_setWriter found]
  by_cases here : writer = other
  · subst here
    rw [if_pos rfl, same, pendingOf, found, Option.bind_some]
  · rw [if_neg here]

theorem AtLock.found (atLock : AtLock state writer item timed) :
    ∃ old, state.writers[writer]? = some old ∧ old.pending? = some (item, timed) := by
  rcases atLock with entering | woken
  · exact ⟨_, entering, rfl⟩
  · exact ⟨_, woken, rfl⟩

/-- A call began with this item and has left the queue alone so far. -/
structure Began (past : List (Moment α)) (writer : Nat) (item : α) (timed : Bool) : Prop where
  first : ∃ first rest, latestCall past writer = first :: rest ∧
    first.action = .call writer item timed
  spares : ∀ moment ∈ latestCall past writer, moment.Spares

theorem Began.of_latestCall {later : List (Moment α)} (began : Began past writer item timed)
    (same : latestCall later writer = latestCall past writer) :
    Began later writer item timed := by
  refine { first := ?_, spares := ?_ }
  · rw [same]
    exact began.first
  · rw [same]
    exact began.spares

theorem Began.append_other (began : Began past writer item timed)
    (others : moment.action.writer? ≠ some writer) :
    Began (past ++ [moment]) writer item timed := by
  apply began.of_latestCall
  have late : moment.begins writer = false := by
    unfold Moment.begins
    cases action : moment.action with
    | call caller item timed => simpa [action, Action.writer?] using others
    | _ => rfl
  rw [latestCall_append, late, if_neg (by simp), if_neg others]

theorem Began.append_own (began : Began past writer item timed)
    (late : moment.begins writer = false) (own : moment.action.writer? = some writer)
    (spares : moment.Spares) : Began (past ++ [moment]) writer item timed := by
  have grown : latestCall (past ++ [moment]) writer = latestCall past writer ++ [moment] := by
    rw [latestCall_append, late, if_neg (by simp), if_pos own]
  obtain ⟨first, rest, same, called⟩ := began.first
  refine { first := ⟨first, rest ++ [moment], ?_, called⟩, spares := ?_ }
  · rw [grown, same, List.cons_append]
  · intro other member
    rw [grown, List.mem_append, List.mem_singleton] at member
    rcases member with before | rfl
    · exact began.spares other before
    · exact spares

theorem began_call (before after : State α) (past : List (Moment α)) (writer : Nat) (item : α)
    (timed : Bool) (spares : after.queue = before.queue ∧ after.accepted = before.accepted) :
    Began (past ++ [{ before, action := .call writer item timed, after }]) writer item timed := by
  have only : latestCall (past ++ [{ before, action := .call writer item timed, after }]) writer =
      [{ before, action := .call writer item timed, after }] := by
    simp [latestCall_append, Moment.begins]
  refine { first := ⟨_, [], only, rfl⟩, spares := ?_ }
  intro moment member
  rw [only, List.mem_singleton] at member
  rw [member]
  exact spares

structure Kept (capacity : Nat) (past : List (Moment α)) (state : State α) : Prop where
  size : state.queue.capacity = capacity
  order : state.taken ++ state.queue.items = state.accepted
  bound : state.queue.items.length ≤ capacity
  written : state.accepted = (state.outcomes.filter (·.written)).map (·.item)
  conserved : (called past).Perm (state.accepted ++ handedBack state ++ held state)
  began : ∀ writer item timed, pendingOf state writer = some (item, timed) →
    Began past writer item timed

theorem kept_start (capacity writers readers : Nat) :
    Kept capacity [] (start capacity writers readers : State α) := by
  have idle : held (start capacity writers readers : State α) = [] := by
    simp [held, start, Writer.pending?]
  refine {
    size := rfl
    order := rfl
    bound := Nat.zero_le _
    written := rfl
    conserved := by rw [idle]; exact .refl _
    began := ?_ }
  intro writer item timed waits
  by_cases bound : writer < writers <;> simp [pendingOf, start, bound, Writer.pending?] at waits

theorem Kept.quiet (kept : Kept capacity past state) (queue : next.queue = state.queue)
    (accepted : next.accepted = state.accepted) (taken : next.taken = state.taken)
    (outcomes : next.outcomes = state.outcomes) (silent : moment.called? = none)
    (holds : (held next).Perm (held state))
    (began : ∀ writer item timed, pendingOf next writer = some (item, timed) →
      Began (past ++ [moment]) writer item timed) :
    Kept capacity (past ++ [moment]) next := by
  refine {
    size := by rw [queue, kept.size]
    order := by rw [taken, queue, accepted, kept.order]
    bound := by rw [queue]; exact kept.bound
    written := by rw [accepted, outcomes, kept.written]
    conserved := ?_
    began }
  rw [called_append, silent, Option.toList_none, List.append_nil, accepted, handedBack, outcomes]
  exact kept.conserved.trans (holds.symm.append_left _)

theorem Kept.began_setWriter {old new : Writer α} (kept : Kept capacity past state)
    (found : state.writers[writer]? = some old) (own : moment.action.writer? = some writer)
    (now : ∀ item timed, new.pending? = some (item, timed) →
      Began (past ++ [moment]) writer item timed) :
    ∀ other item timed, pendingOf (setWriter state writer new) other = some (item, timed) →
      Began (past ++ [moment]) other item timed := by
  intro other item timed pending
  rw [pendingOf_setWriter found] at pending
  by_cases here : writer = other
  · subst here
    rw [if_pos rfl] at pending
    exact now item timed pending
  · rw [if_neg here] at pending
    refine (kept.began other item timed pending).append_other ?_
    rw [own]
    simpa using here

theorem Kept.goesOn {old new : Writer α} (kept : Kept capacity past state)
    (found : state.writers[writer]? = some old) (same : new.pending? = old.pending?)
    (own : action.writer? = some writer) (late : ∀ item timed, action ≠ .call writer item timed) :
    Kept capacity (past ++ [{ before := state, action, after := setWriter state writer new }])
      (setWriter state writer new) := by
  have silent : ∀ caller item timed, action ≠ .call caller item timed := by
    rintro caller item timed rfl
    obtain rfl : caller = writer := Option.some.inj own
    exact late item timed rfl
  refine kept.quiet rfl rfl rfl rfl ?_ (held_setWriter_same found same) ?_
  · cases action with
    | call caller item timed => exact absurd rfl (silent caller item timed)
    | _ => rfl
  · refine kept.began_setWriter found own ?_
    intro item timed pending
    rw [same] at pending
    have under_way : pendingOf state writer = some (item, timed) := by
      rw [pendingOf, found, Option.bind_some, pending]
    refine (kept.began writer item timed under_way).append_own ?_ own ⟨rfl, rfl⟩
    cases action with
    | call caller item timed => exact absurd rfl (silent caller item timed)
    | _ => rfl

theorem Kept.append_silent (kept : Kept capacity past state)
    (silent : moment.action.writer? = none)
    (pending : ∀ writer, pendingOf next writer = pendingOf state writer) :
    ∀ writer item timed, pendingOf next writer = some (item, timed) →
      Began (past ++ [moment]) writer item timed := by
  intro writer item timed waits
  rw [pending] at waits
  refine (kept.began writer item timed waits).append_other ?_
  rw [silent]
  simp

theorem Kept.calls (kept : Kept capacity past state) (item : α) (timed : Bool)
    (idle : state.writers[writer]? = some .idle) :
    Kept capacity
      (past ++ [{
        before := state
        action := .call writer item timed
        after := setWriter state writer (.entering item timed) }])
      (setWriter state writer (.entering item timed)) := by
  have moved := held_setWriter idle (.entering item timed)
  simp only [Writer.pending?, Option.map_none, Option.toList_none, List.append_nil, Option.map_some,
    Option.toList_some] at moved
  refine {
    size := kept.size
    order := kept.order
    bound := kept.bound
    written := kept.written
    conserved := ?_
    began := kept.began_setWriter idle rfl ?_ }
  · rw [called_append]
    calc
      (called past ++ [item]).Perm
          ((state.accepted ++ handedBack state ++ held state) ++ [item]) :=
        kept.conserved.append_right _
      _ = state.accepted ++ handedBack state ++ (held state ++ [item]) := List.append_assoc ..
      List.Perm _ (state.accepted ++ handedBack state ++
          held (setWriter state writer (.entering item timed))) := moved.symm.append_left _
  · intro other patience pending
    obtain ⟨rfl, rfl⟩ := Prod.mk.inj (Option.some.inj pending)
    exact began_call _ _ past writer item timed ⟨rfl, rfl⟩

theorem Kept.returns (kept : Kept capacity past state) (expired : Bool)
    (atLock : AtLock state writer item timed)
    (writers_eq : next.writers = state.writers.set writer .idle)
    (size : next.queue.capacity = capacity)
    (order : next.taken ++ next.queue.items = next.accepted)
    (bound : next.queue.items.length ≤ capacity)
    (written : next.accepted = (next.outcomes.filter (·.written)).map (·.item))
    (moved : (state.accepted ++ handedBack state ++ [item]).Perm
      (next.accepted ++ handedBack next)) :
    Kept capacity
      (past ++ [{ before := state, action := .enter writer expired, after := next }]) next := by
  obtain ⟨old, found, pending⟩ := atLock.found
  have released := held_setWriter found .idle
  rw [pending] at released
  simp only [Option.map_some, Option.toList_some, Writer.pending?, Option.map_none,
    Option.toList_none, List.append_nil] at released
  have held_eq : held next = held (setWriter state writer .idle) := by
    rw [held, held, setWriter, writers_eq]
  have pending_eq (other : Nat) : pendingOf next other =
      pendingOf (setWriter state writer .idle) other := by
    rw [pendingOf, pendingOf, setWriter, writers_eq]
  refine { size, order, bound, written, conserved := ?_, began := ?_ }
  · rw [called_append, held_eq]
    change (called past ++ []).Perm _
    rw [List.append_nil]
    calc
      (called past).Perm (state.accepted ++ handedBack state ++ held state) := kept.conserved
      List.Perm _ (state.accepted ++ handedBack state ++
          ([item] ++ held (setWriter state writer .idle))) :=
        (released.symm.trans List.perm_append_comm).append_left _
      _ = state.accepted ++ handedBack state ++ [item] ++ held (setWriter state writer .idle) :=
        (List.append_assoc ..).symm
      List.Perm _ (next.accepted ++ handedBack next ++ held (setWriter state writer .idle)) :=
        moved.append_right _
  · intro other item timed waits
    rw [pending_eq] at waits
    refine kept.began_setWriter found rfl ?_ other item timed waits
    simp [Writer.pending?]

theorem Kept.step (kept : Kept capacity past state) (change : Change state action next) :
    Kept capacity (past ++ [{ before := state, action, after := next }]) next := by
  cases change with
  | called writer item timed idle => exact kept.calls item timed idle
  | wrote writer item timed expired atLock room =>
      refine kept.returns expired atLock rfl kept.size ?_ ?_ ?_ ?_
      · rw [← kept.order, List.append_assoc]
        rfl
      · have size := kept.size
        simp only [List.length_append, List.length_singleton]
        omega
      · simp [← kept.written]
      · have swapped : (handedBack state ++ [item]).Perm ([item] ++ handedBack state) :=
          List.perm_append_comm
        simpa [handedBack] using swapped.append_left state.accepted
  | gaveUp writer item atLock full =>
      refine kept.returns true atLock rfl kept.size kept.order kept.bound ?_ ?_
      · simpa [setWriter] using kept.written
      · simp [handedBack, setWriter]
  | slept writer item timed expired atLock full =>
      obtain ⟨old, found, pending⟩ := atLock.found
      exact kept.goesOn found pending.symm rfl (by simp)
  | woke writer item timed asleep => exact kept.goesOn asleep rfl rfl (by simp)
  | took reader item rest idle items =>
      have order := kept.order
      have bound := kept.bound
      rw [items] at order bound
      refine {
        size := kept.size
        order := by rw [← order, List.append_assoc, List.singleton_append]
        bound := Nat.le_of_succ_le bound
        written := kept.written
        conserved := ?_
        began := kept.append_silent rfl fun _ => rfl }
      rw [called_append]
      exact (List.append_nil _).symm ▸ kept.conserved
  | foundNothing reader idle =>
      exact kept.quiet rfl rfl rfl rfl rfl (.refl _) (kept.append_silent rfl fun _ => rfl)
  | notified reader writer item timed notifying asleep =>
      exact kept.quiet rfl rfl rfl rfl rfl (held_setWriter_same asleep rfl)
        (kept.append_silent rfl fun _ => pendingOf_setWriter_same asleep rfl)
  | notifiedNobody reader writer notifying nobody =>
      exact kept.quiet rfl rfl rfl rfl rfl (.refl _) (kept.append_silent rfl fun _ => rfl)

theorem Run.kept (run : Run capacity writers readers past state) : Kept capacity past state := by
  induction run with
  | start => exact kept_start capacity writers readers
  | step action _ stepped ih => exact ih.step (change_of_step stepped)

/-- A step in which a call returns. It hands out what the call brought along, to the queue or back
to the caller, and all earlier steps of the call left the queue alone. -/
structure Returns (past : List (Moment α)) (state next : State α) (outcome : Outcome α) :
    Prop where
  outcomes : next.outcomes = state.outcomes ++ [outcome]
  began : ∃ timed, Began past outcome.writer outcome.item timed ∧
    (outcome.written = false → timed = true)
  accepted : outcome.written = true →
    next.queue.items = state.queue.items ++ [outcome.item] ∧
    next.accepted = state.accepted ++ [outcome.item]
  refused : outcome.written = false →
    next.queue = state.queue ∧ next.accepted = state.accepted

theorem AtLock.pendingOf (atLock : AtLock state writer item timed) :
    pendingOf state writer = some (item, timed) := by
  obtain ⟨old, found, pending⟩ := atLock.found
  rw [Waiting.pendingOf, found, Option.bind_some, pending]

theorem Kept.returns_or_not (kept : Kept capacity past state) (change : Change state action next) :
    (next.outcomes = state.outcomes ∧ next.accepted = state.accepted) ∨
      ∃ outcome, Returns past state next outcome := by
  cases change with
  | wrote writer item timed expired atLock room =>
      refine .inr ⟨{ writer, item, written := true }, ?_⟩
      exact {
        outcomes := rfl
        began := ⟨timed, kept.began writer item timed atLock.pendingOf, by simp⟩
        accepted := fun _ => ⟨rfl, rfl⟩
        refused := by simp }
  | gaveUp writer item atLock full =>
      refine .inr ⟨{ writer, item, written := false }, ?_⟩
      exact {
        outcomes := rfl
        began := ⟨true, kept.began writer item true atLock.pendingOf, fun _ => rfl⟩
        accepted := by simp
        refused := fun _ => ⟨rfl, rfl⟩ }
  | _ => exact .inl ⟨rfl, rfl⟩

theorem Kept.not_mem_of_refused (kept : Kept capacity past state) (distinct : (called past).Nodup)
    {outcome : Outcome α} (listed : outcome ∈ state.outcomes) (refused : outcome.written = false) :
    outcome.item ∉ state.taken ∧ outcome.item ∉ state.queue.items := by
  have apart := kept.conserved.nodup_iff.mp distinct
  have back : outcome.item ∈ handedBack state := by
    apply List.mem_map_of_mem
    simp [listed, refused]
  have fresh : outcome.item ∉ state.accepted := by
    intro accepted
    exact (List.nodup_append.mp (List.nodup_append.mp apart).1).2.2 _ accepted _ back rfl
  rwa [← kept.order, List.mem_append, not_or] at fresh

/-- What was read and what the queue holds are, in order, what the queue accepted, which is never
more than it has room for. Every return is that of a call with its own item: either the queue takes
the item in that step, or it is handed back to a caller that waited for so long only, and the call
has not touched the queue. The items of all calls, counted as often as they were brought along, are
with the readers, in the queue, handed back, and held by calls under way. -/
theorem items_kept_in_order (run : Run capacity writers readers past state) :
    state.taken ++ state.queue.items = state.accepted ∧
    state.queue.items.length ≤ capacity ∧
    state.accepted = (state.outcomes.filter (·.written)).map (·.item) ∧
    (called past).Perm (state.taken ++ state.queue.items ++ handedBack state ++ held state) ∧
    ((called past).Nodup → ∀ outcome ∈ state.outcomes, outcome.written = false →
      outcome.item ∉ state.taken ∧ outcome.item ∉ state.queue.items) ∧
    ∀ action next, step state action = some next →
      (next.outcomes = state.outcomes ∧ next.accepted = state.accepted) ∨
        ∃ outcome, Returns past state next outcome := by
  have kept := run.kept
  refine ⟨kept.order, kept.bound, kept.written, ?_, ?_, ?_⟩
  · rw [kept.order]
    exact kept.conserved
  · intro distinct outcome listed refused
    exact kept.not_mem_of_refused distinct listed refused
  · intro action next stepped
    exact kept.returns_or_not (change_of_step stepped)

theorem items_kept_of_two_writers :
    ∃ (past : List (Moment Nat)) (state next : State Nat),
      Run 1 2 1 past state ∧ called past = [5, 6] ∧ state.taken ++ state.queue.items = [5] ∧
      step state (.enter 1 true) = some next ∧
      ∃ outcome, Returns past state next outcome ∧ outcome.item = 6 ∧
        outcome.written = false := by
  have run : Run 1 2 1 _ _ :=
    (((((Run.start (α := Nat)).step (.call 0 5 false) rfl).step (.enter 0 false) rfl).step
      (.call 1 6 true) rfl).step (.enter 1 false) rfl).step (.wake 1) rfl
  obtain ⟨order, _, written, _, _, returns⟩ := items_kept_in_order run
  obtain ⟨same, _⟩ | ⟨outcome, returned⟩ := returns (.enter 1 true) _ rfl
  · exact absurd (congrArg List.length same) (by decide)
  · have grown : [{ writer := 0, item := 5, written := true }] ++
        [{ writer := 1, item := 6, written := false }] =
        [{ writer := 0, item := 5, written := true }] ++ [outcome] := returned.outcomes
    obtain rfl := List.singleton_inj.mp (List.append_cancel_left grown)
    exact ⟨_, _, _, run, rfl, order.trans written, rfl, _, returned, rfl, rfl⟩

end TiledStream.Waiting
