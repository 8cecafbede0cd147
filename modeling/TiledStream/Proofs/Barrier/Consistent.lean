import TiledStream.Proofs.Barrier.History

/-! What the counters of the barrier say about the past of a run. -/

namespace TiledStream.Assembly

variable {participants index generation : Nat} {past : List Moment} {moment : Moment}
  {assembly next : Assembly} {action : Action}

structure Consistent (participants : Nat) (past : List Moment) (assembly : Assembly) : Prop where
  size : assembly.participants.length = participants
  threshold : assembly.barrier.threshold = assembly.participants.countP (·.isLive)
  pending : assembly.barrier.pending =
    assembly.participants.countP (·.isAwaited assembly.barrier.generation)
  /-- A generation that nobody is missing from has ended. -/
  progress : 0 < assembly.barrier.threshold → 0 < assembly.barrier.pending
  completions : assembly.completions = assembly.barrier.generation
  completed : completed past = List.range assembly.barrier.generation
  bounded : ∀ moment ∈ past, moment.generation ≤ assembly.barrier.generation
  live : ∀ index participant, assembly.participants[index]? = some participant →
    participant.isLive = !hasLeft past index
  awaited : ∀ index participant, assembly.participants[index]? = some participant →
    participant.isAwaited assembly.barrier.generation =
      (!hasLeft past index && !hasArrived past assembly.barrier.generation index)
  parked : ∀ (index entered : Nat), assembly.participants[index]? = some (.parked entered) →
    entered = assembly.barrier.generation
  woken : ∀ (index entered : Nat), assembly.participants[index]? = some (.woken entered) →
    entered ≤ assembly.barrier.generation
  entered : ∀ (index entered : Nat), assembly.participants[index]? = some (.parked entered) ∨
    assembly.participants[index]? = some (.woken entered) → entered? past index = some entered
  /-- Everyone that an ended generation counted on arrived in it. -/
  ended : ∀ generation < assembly.barrier.generation, ∀ index < participants,
    isLiveIn past generation index = true → hasArrived past generation index = true

theorem consistent_start (participants : Nat) : Consistent participants [] (start participants) := by
  refine {
    size := by simp [start]
    threshold := by
      simp [start, Barrier.start, List.countP_replicate, Participant.isLive]
    pending := by
      simp [start, Barrier.start, List.countP_replicate, Participant.isAwaited]
    progress := by simp [start, Barrier.start]
    completions := rfl
    completed := rfl
    bounded := by simp
    live := ?_
    awaited := ?_
    parked := ?_
    woken := ?_
    entered := ?_
    ended := by simp [start, Barrier.start] }
  all_goals
    simp only [start, List.getElem?_replicate]
    intro index
    by_cases bound : index < participants <;> simp [bound]
  · rfl
  · rfl

theorem Consistent.quiet (consistent : Consistent participants past assembly)
    {old after : Participant} (found : assembly.participants[index]? = some old)
    (silent : ∀ other, moment.isArrival other = false) (idle : moment.completes = false)
    (now : moment.before = assembly)
    (live : after.isLive = old.isLive)
    (awaited : after.isAwaited assembly.barrier.generation =
      old.isAwaited assembly.barrier.generation)
    (parked : ∀ entered, after = .parked entered → entered = assembly.barrier.generation)
    (woken : ∀ entered, after = .woken entered → entered ≤ assembly.barrier.generation)
    (asleep : ∀ entered, after = .parked entered ∨ after = .woken entered →
      old = .parked entered ∨ old = .woken entered) :
    Consistent participants (past ++ [moment]) (assembly.setParticipant index after) := by
  have stays (other : Nat) : moment.isDeparture other = false := by
    have arrival := silent other
    simp only [Moment.isArrival, Bool.or_eq_false_iff] at arrival
    exact arrival.2
  have left (other : Nat) : hasLeft (past ++ [moment]) other = hasLeft past other := by
    simp [stays]
  have arrived (generation other : Nat) :
      hasArrived (past ++ [moment]) generation other = hasArrived past generation other := by
    simp [silent]
  refine {
    size := by simpa [setParticipant] using consistent.size
    threshold := ?_
    pending := ?_
    progress := consistent.progress
    completions := consistent.completions
    completed := by
      simpa [completed_append, idle, setParticipant] using consistent.completed
    bounded := ?_
    live := ?_
    awaited := ?_
    parked := ?_
    woken := ?_
    entered := ?_
    ended := ?_ }
  · exact consistent.threshold.trans (countP_set_eq _ after found live).symm
  · exact consistent.pending.trans (countP_set_eq _ after found awaited).symm
  · intro other member
    rcases List.mem_append.mp member with earlier | last
    · exact consistent.bounded other earlier
    · rw [List.mem_singleton.mp last]
      simp [Moment.generation, now, setParticipant]
  · intro other participant at_other
    rw [left]
    rcases found_of_set at_other with ⟨here, status⟩ | ⟨_, kept⟩
    · rw [status, live, ← here]
      exact consistent.live index old found
    · exact consistent.live other participant kept
  · intro other participant at_other
    rw [left, arrived]
    rcases found_of_set at_other with ⟨here, status⟩ | ⟨_, kept⟩
    · rw [status, ← here]
      exact awaited.trans (consistent.awaited index old found)
    · exact consistent.awaited other participant kept
  · intro other entered at_other
    rcases found_of_set at_other with ⟨_, status⟩ | ⟨_, kept⟩
    · exact parked entered status.symm
    · exact consistent.parked other entered kept
  · intro other entered at_other
    rcases found_of_set at_other with ⟨_, status⟩ | ⟨_, kept⟩
    · exact woken entered status.symm
    · exact consistent.woken other entered kept
  · intro other entered at_other
    have waits : moment.action ≠ .arrive other := by
      have arrival := silent other
      simp only [Moment.isArrival, Bool.or_eq_false_iff, decide_eq_false_iff_not] at arrival
      exact arrival.1
    rw [entered?_append, if_neg waits]
    have status : assembly.participants[other]? = some (.parked entered) ∨
        assembly.participants[other]? = some (.woken entered) := by
      rcases at_other with at_other | at_other
      all_goals
        rcases found_of_set at_other with ⟨here, status⟩ | ⟨_, kept⟩
        · rw [← here, found]
          simpa using asleep entered (by simp [← status])
        · simp [kept]
    exact consistent.entered other entered status
  · intro generation earlier other known live_then
    rw [arrived]
    apply consistent.ended generation earlier other known
    simpa [stays] using live_then

structure Arrival (moment : Moment) (assembly : Assembly) (index : Nat) (leaves : Bool) : Prop where
  now : moment.before = assembly
  arrives : ∀ other, moment.isArrival other = decide (index = other)
  departs : ∀ other, moment.isDeparture other = (leaves && decide (index = other))
  running : assembly.participants[index]? = some .running

theorem Arrival.ofArrive (running : assembly.participants[index]? = some .running) :
    Arrival { before := assembly, action := .arrive index } assembly index false := by
  refine { now := rfl, arrives := ?_, departs := ?_, running }
  · intro other
    simp [Moment.isArrival, Moment.isDeparture]
  · intro other
    simp [Moment.isDeparture]

theorem Arrival.ofLeave (running : assembly.participants[index]? = some .running) :
    Arrival { before := assembly, action := .leave index } assembly index true := by
  refine { now := rfl, arrives := ?_, departs := ?_, running }
  · intro other
    simp [Moment.isArrival, Moment.isDeparture]
  · intro other
    simp [Moment.isDeparture]

section

variable {leaves : Bool} {after : Participant}

theorem Arrival.generation_eq (arrival : Arrival moment assembly index leaves) :
    moment.generation = assembly.barrier.generation := by
  rw [Moment.generation, arrival.now]

theorem Arrival.entered?_eq (arrival : Arrival moment assembly index leaves) (other : Nat) :
    entered? (past ++ [moment]) other =
      if leaves = false ∧ index = other then some assembly.barrier.generation
      else entered? past other := by
  rw [entered?_append, arrival.generation_eq]
  have arrives := arrival.arrives other
  have departs := arrival.departs other
  simp only [Moment.isArrival, Moment.isDeparture] at arrives departs
  cases leaves <;> by_cases here : index = other <;> simp_all

theorem Arrival.countP_isLive (arrival : Arrival moment assembly index leaves)
    (consistent : Consistent participants past assembly) (stays : after.isLive = !leaves) :
    (assembly.participants.set index after).countP (·.isLive) =
      assembly.barrier.threshold - if leaves then 1 else 0 := by
  rw [consistent.threshold]
  cases leaves with
  | false => exact countP_set_eq (·.isLive) after arrival.running stays
  | true =>
      have counted := countP_set_pred (·.isLive) after arrival.running rfl stays
      rw [if_pos rfl, ← counted, Nat.add_sub_cancel]

theorem Arrival.hasLeft_eq (arrival : Arrival moment assembly index leaves)
    (consistent : Consistent participants past assembly) (stays : after.isLive = !leaves)
    {other : Nat} {participant : Participant}
    (found : (assembly.participants.set index after)[other]? = some participant) :
    participant.isLive = !hasLeft (past ++ [moment]) other := by
  rw [hasLeft_append, arrival.departs]
  rcases found_of_set found with ⟨here, status⟩ | ⟨elsewhere, kept⟩
  · have still := consistent.live index .running arrival.running
    subst here
    cases leaves <;> simp_all [Participant.isLive]
  · simpa [elsewhere] using consistent.live other participant kept

theorem Arrival.consistent_early (arrival : Arrival moment assembly index leaves)
    (consistent : Consistent participants past assembly) (idle : moment.completes = false)
    (others : 1 < assembly.barrier.pending) (stays : after.isLive = !leaves)
    (arrived : after.isAwaited assembly.barrier.generation = false)
    (parked : ∀ entered, after = .parked entered → entered = assembly.barrier.generation)
    (asleep : ∀ entered, after ≠ .woken entered) :
    Consistent participants (past ++ [moment]) {
      barrier := {
        pending := assembly.barrier.pending - 1
        threshold := assembly.barrier.threshold - if leaves then 1 else 0
        generation := assembly.barrier.generation }
      completions := assembly.completions
      participants := assembly.participants.set index after } := by
  refine {
    size := by simpa using consistent.size
    threshold := (arrival.countP_isLive consistent stays).symm
    pending := ?_
    progress := fun _ => by simp only; omega
    completions := consistent.completions
    completed := by simpa [completed_append, idle] using consistent.completed
    bounded := ?_
    live := fun _ _ found => arrival.hasLeft_eq consistent stays found
    awaited := ?_
    parked := ?_
    woken := ?_
    entered := ?_
    ended := ?_ }
  · have counted := countP_set_pred (·.isAwaited assembly.barrier.generation) after
      arrival.running rfl arrived
    rw [consistent.pending, ← counted, Nat.add_sub_cancel]
  · intro other member
    rcases List.mem_append.mp member with earlier | last
    · exact consistent.bounded other earlier
    · rw [List.mem_singleton.mp last]
      exact Nat.le_of_eq arrival.generation_eq
  · intro other participant found
    rw [hasLeft_append, hasArrived_append, arrival.generation_eq, arrival.arrives, arrival.departs]
    rcases found_of_set found with ⟨here, status⟩ | ⟨elsewhere, kept⟩
    · simp [here, status, arrived]
    · simpa [elsewhere] using consistent.awaited other participant kept
  · intro other entered found
    rcases found_of_set found with ⟨_, status⟩ | ⟨_, kept⟩
    · exact parked entered status.symm
    · exact consistent.parked other entered kept
  · intro other entered found
    rcases found_of_set found with ⟨_, status⟩ | ⟨_, kept⟩
    · exact absurd status.symm (asleep entered)
    · exact consistent.woken other entered kept
  · intro other entered found
    rw [arrival.entered?_eq]
    rcases found with found | found
    · rcases found_of_set found with ⟨here, status⟩ | ⟨elsewhere, kept⟩
      · have waits : leaves = false := by
          rw [← status] at stays
          simpa [Participant.isLive] using stays
        simp [here, waits, parked entered status.symm]
      · simpa [elsewhere] using consistent.entered other entered (.inl kept)
    · rcases found_of_set found with ⟨_, status⟩ | ⟨elsewhere, kept⟩
      · exact absurd status.symm (asleep entered)
      · simpa [elsewhere] using consistent.entered other entered (.inr kept)
  · intro generation earlier other known live_then
    rw [hasArrived_append, consistent.ended generation earlier other known ?_, Bool.true_or]
    rw [isLiveIn_append, Bool.and_eq_true] at live_then
    exact live_then.1

theorem Arrival.awaited_only (arrival : Arrival moment assembly index leaves)
    (consistent : Consistent participants past assembly) (last : assembly.barrier.pending ≤ 1)
    {other : Nat} {participant : Participant}
    (found : assembly.participants[other]? = some participant) (elsewhere : index ≠ other) :
    participant.isAwaited assembly.barrier.generation = false := by
  have counted := countP_set_pred (·.isAwaited assembly.barrier.generation) .gone
    arrival.running rfl rfl
  rw [← consistent.pending] at counted
  have nobody : (assembly.participants.set index .gone).countP
      (·.isAwaited assembly.barrier.generation) = 0 := by omega
  have member : participant ∈ assembly.participants.set index .gone := by
    apply List.mem_of_getElem? (i := other)
    rwa [List.getElem?_set_ne elsewhere]
  simpa using List.countP_eq_zero.mp nobody participant member

theorem isAwaited_rouse {participant : Participant} {generation : Nat}
    (earlier : ∀ entered, participant = .parked entered ∨ participant = .woken entered →
      entered < generation) :
    (rouse participant).isAwaited generation = participant.isLive := by
  cases participant with
  | running => rfl
  | gone => rfl
  | parked entered =>
      have different : entered ≠ generation := Nat.ne_of_lt (earlier entered (.inl rfl))
      simp [rouse, Participant.isAwaited, Participant.isLive, different]
  | woken entered =>
      have different : entered ≠ generation := Nat.ne_of_lt (earlier entered (.inr rfl))
      simp [rouse, Participant.isAwaited, Participant.isLive, different]

theorem getElem?_released {other : Nat} {participant : Participant}
    (found : (assembly.released index after)[other]? = some participant) :
    ∃ earlier, (assembly.participants.set index after)[other]? = some earlier ∧
      participant = rouse earlier := by
  rw [released, List.getElem?_map, Option.map_eq_some_iff] at found
  obtain ⟨earlier, at_other, same⟩ := found
  exact ⟨earlier, at_other, same.symm⟩

theorem Arrival.all_arrived (arrival : Arrival moment assembly index leaves)
    (consistent : Consistent participants past assembly) (last : assembly.barrier.pending ≤ 1)
    {other : Nat} (known : other < participants)
    (counts : isLiveIn past assembly.barrier.generation other = true) :
    hasArrived (past ++ [moment]) assembly.barrier.generation other = true := by
  rw [hasArrived_append]
  by_cases here : index = other
  · simp [arrival.generation_eq, arrival.arrives, here]
  · have inside : other < assembly.participants.length := by rw [consistent.size]; exact known
    have found := List.getElem?_eq_getElem inside
    have counted := consistent.awaited other _ found
    rw [arrival.awaited_only consistent last found here] at counted
    rw [Bool.or_eq_true]
    left
    -- Who left did so in this generation, which counts as arriving in it.
    by_cases left : hasLeft past other = true
    · obtain ⟨departure, member, departs⟩ := List.any_eq_true.mp left
      simp only [isLiveIn, Bool.not_eq_true', List.any_eq_false, Bool.and_eq_true,
        decide_eq_true_eq, not_and] at counts
      have not_earlier := mt (counts departure member) (not_not_intro departs)
      have bound := consistent.bounded departure member
      refine List.any_eq_true.mpr ⟨departure, member, ?_⟩
      have same : departure.generation = assembly.barrier.generation := by omega
      simp [same, Moment.isArrival, departs]
    · simpa [left] using counted

/-- Who sleeps after the last arrival slept before it, and began in a generation that has ended. -/
theorem Consistent.asleep_before (consistent : Consistent participants past assembly)
    (awake : ∀ entered, after ≠ .parked entered ∧ after ≠ .woken entered) {other entered : Nat}
    {participant : Participant}
    (found : (assembly.participants.set index after)[other]? = some participant)
    (asleep : participant = .parked entered ∨ participant = .woken entered) :
    index ≠ other ∧ assembly.participants[other]? = some participant ∧
      entered < assembly.barrier.generation + 1 := by
  rcases found_of_set found with ⟨_, status⟩ | ⟨elsewhere, kept⟩
  · rcases asleep with parked | woken
    · exact absurd (status.symm.trans parked) (awake entered).1
    · exact absurd (status.symm.trans woken) (awake entered).2
  · refine ⟨elsewhere, kept, ?_⟩
    rcases asleep with parked | woken
    · rw [consistent.parked other entered (by rw [kept, parked])]
      exact Nat.lt_succ_self _
    · exact Nat.lt_succ_of_le (consistent.woken other entered (by rw [kept, woken]))

theorem rouse_asleep {earlier : Participant} {entered : Nat}
    (asleep : rouse earlier = .parked entered ∨ rouse earlier = .woken entered) :
    earlier = .parked entered ∨ earlier = .woken entered := by
  cases earlier <;> simp_all [rouse]

theorem Arrival.consistent_last (arrival : Arrival moment assembly index leaves)
    (consistent : Consistent participants past assembly) (ran : moment.completes = true)
    (last : assembly.barrier.pending ≤ 1) (stays : after.isLive = !leaves)
    (awake : ∀ entered, after ≠ .parked entered ∧ after ≠ .woken entered) :
    Consistent participants (past ++ [moment]) {
      barrier := {
        pending := assembly.barrier.threshold - if leaves then 1 else 0
        threshold := assembly.barrier.threshold - if leaves then 1 else 0
        generation := assembly.barrier.generation + 1 }
      completions := assembly.completions + 1
      participants := assembly.released index after } := by
  have bounded (earlier : Moment) (member : earlier ∈ past ++ [moment]) :
      earlier.generation ≤ assembly.barrier.generation := by
    rcases List.mem_append.mp member with before | now
    · exact consistent.bounded earlier before
    · rw [List.mem_singleton.mp now]
      exact Nat.le_of_eq arrival.generation_eq
  have live_count : (assembly.released index after).countP (·.isLive) =
      assembly.barrier.threshold - if leaves then 1 else 0 := by
    rw [released, List.countP_map, ← arrival.countP_isLive consistent stays]
    simp [Function.comp_def]
  -- Nobody who waits began in the new generation, so it awaits everyone who has not left.
  have all_awaited (participant : Participant)
      (member : participant ∈ assembly.participants.set index after) :
      (rouse participant).isAwaited (assembly.barrier.generation + 1) = participant.isLive := by
    obtain ⟨other, found⟩ := List.mem_iff_getElem?.mp member
    exact isAwaited_rouse fun entered asleep =>
      (consistent.asleep_before awake found asleep).2.2
  have live (other : Nat) (participant : Participant)
      (found : (assembly.released index after)[other]? = some participant) :
      participant.isLive = !hasLeft (past ++ [moment]) other := by
    obtain ⟨earlier, at_other, same⟩ := getElem?_released found
    rw [same, Participant.isLive_rouse]
    exact arrival.hasLeft_eq consistent stays at_other
  refine {
    size := by simpa [released] using consistent.size
    threshold := live_count.symm
    pending := ?_
    progress := id
    completions := congrArg (· + 1) consistent.completions
    completed := ?_
    bounded := fun earlier member => Nat.le_succ_of_le (bounded earlier member)
    live
    awaited := ?_
    parked := ?_
    woken := ?_
    entered := ?_
    ended := ?_ }
  · simp only
    rw [← live_count, released, List.countP_map, List.countP_map]
    apply List.countP_congr
    intro participant member
    simp [all_awaited participant member]
  · rw [completed_append, consistent.completed, ran, arrival.generation_eq]
    exact List.range_succ.symm
  · intro other participant found
    -- No moment of the past lies in the new generation.
    have nobody : hasArrived (past ++ [moment]) (assembly.barrier.generation + 1) other = false := by
      rw [hasArrived, List.any_eq_false]
      intro earlier member
      have different : earlier.generation ≠ assembly.barrier.generation + 1 :=
        Nat.ne_of_lt (Nat.lt_succ_of_le (bounded earlier member))
      simp [different]
    obtain ⟨earlier, at_other, same⟩ := getElem?_released found
    rw [nobody, ← live other participant found, same,
      all_awaited earlier (List.mem_of_getElem? at_other)]
    simp
  · intro other entered found
    obtain ⟨earlier, _, same⟩ := getElem?_released found
    cases earlier <;> simp [rouse] at same
  · intro other entered found
    obtain ⟨earlier, at_other, same⟩ := getElem?_released found
    have asleep := rouse_asleep (.inr same.symm)
    exact Nat.le_of_lt (consistent.asleep_before awake at_other asleep).2.2
  · intro other entered found
    obtain ⟨participant, at_other, status⟩ : ∃ participant,
        (assembly.released index after)[other]? = some participant ∧
          (participant = .parked entered ∨ participant = .woken entered) := by
      rcases found with found | found
      · exact ⟨_, found, .inl rfl⟩
      · exact ⟨_, found, .inr rfl⟩
    obtain ⟨earlier, at_earlier, rfl⟩ := getElem?_released at_other
    have asleep := rouse_asleep status
    obtain ⟨elsewhere, kept, _⟩ := consistent.asleep_before awake at_earlier asleep
    rw [arrival.entered?_eq, if_neg (by simp [elsewhere])]
    exact consistent.entered other entered (by simpa [kept] using asleep)
  · intro generation ended other known live_then
    rw [isLiveIn_append, Bool.and_eq_true] at live_then
    rcases Nat.lt_succ_iff_lt_or_eq.mp ended with earlier | now
    · rw [hasArrived_append, consistent.ended generation earlier other known live_then.1,
        Bool.true_or]
    · subst now
      exact arrival.all_arrived consistent last known live_then.1

end

theorem Consistent.step (consistent : Consistent participants past assembly)
    (stepped : assembly.step action = some next) :
    Consistent participants (past ++ [{ before := assembly, action }]) next := by
  cases change_of_step stepped with
  | arriveLast index running last =>
      exact (Arrival.ofArrive running).consistent_last consistent
        (by simp [Moment.completes, Barrier.arrive_of_last last]) last rfl (by simp)
  | arriveEarly index running others =>
      exact (Arrival.ofArrive running).consistent_early consistent
        (by simp [Moment.completes, Barrier.arrive_of_others others]) others rfl
        (by simp [Participant.isAwaited]) (by simp) (by simp)
  | leaveLast index running last =>
      exact (Arrival.ofLeave running).consistent_last consistent
        (by simp [Moment.completes, Barrier.leave_of_last last]) last rfl (by simp)
  | leaveEarly index running others =>
      exact (Arrival.ofLeave running).consistent_early consistent
        (by simp [Moment.completes, Barrier.leave_of_others others]) others rfl rfl
        (by simp) (by simp)
  | wake index entered asleep =>
      have now := consistent.parked index entered asleep
      exact consistent.quiet asleep (by simp [Moment.isArrival, Moment.isDeparture]) rfl rfl rfl rfl
        (by simp) (by simp [now]) (by simp)
  | sleepAgain index awake =>
      exact consistent.quiet awake (by simp [Moment.isArrival, Moment.isDeparture]) rfl rfl rfl rfl
        (by simp) (by simp) (by simp)
  | goOn index entered awake ended =>
      exact consistent.quiet awake (by simp [Moment.isArrival, Moment.isDeparture]) rfl rfl rfl
        (by simp [Participant.isAwaited, ended.symm]) (by simp) (by simp) (by simp)

theorem Run.consistent (run : Run participants past assembly) :
    Consistent participants past assembly := by
  induction run with
  | start => exact consistent_start participants
  | step action _ stepped ih => exact ih.step stepped

end TiledStream.Assembly
