import TiledStream.Proofs.Barrier.Consistent

/-! The participants of a barrier go from generation to generation in lockstep. -/

namespace TiledStream.Assembly

variable {participants index generation : Nat} {past : List Moment} {moment : Moment}
  {assembly next : Assembly} {action : Action}

theorem countP_eq_countP_range {items : List Participant} {count : Participant → Bool}
    {known : Nat → Bool}
    (agree : ∀ index item, items[index]? = some item → count item = known index) :
    items.countP count = (List.range items.length).countP known := by
  have listed : items.map count = (List.range items.length).map known := by
    apply List.ext_getElem (by simp)
    intro index inside _
    have bound : index < items.length := by simpa using inside
    simpa using agree index items[index] (List.getElem?_eq_getElem bound)
  have counted := congrArg (List.countP id) listed
  simpa [List.countP_map] using counted

theorem Consistent.threshold_eq (consistent : Consistent participants past assembly) :
    assembly.barrier.threshold =
      (List.range participants).countP fun index => !hasLeft past index := by
  rw [consistent.threshold, countP_eq_countP_range consistent.live, consistent.size]

theorem Consistent.pending_eq (consistent : Consistent participants past assembly) :
    assembly.barrier.pending = (List.range participants).countP fun index =>
      !hasLeft past index && !hasArrived past assembly.barrier.generation index := by
  rw [consistent.pending, countP_eq_countP_range consistent.awaited, consistent.size]

theorem Consistent.returns_after (consistent : Consistent participants past assembly)
    (stepped : assembly.step action = some next) (returns : Returns action next index) :
    ∃ generation,
      entered? (past ++ [{ before := assembly, action }]) index = some generation ∧
      generation < next.barrier.generation := by
  obtain ⟨running, call⟩ := returns
  cases change_of_step stepped with
  | arriveLast other at_other last =>
      obtain rfl : other = index := by simpa using call
      refine ⟨assembly.barrier.generation, ?_, Nat.lt_succ_self _⟩
      rw [entered?_append, if_pos rfl, Moment.generation]
  | arriveEarly other at_other others =>
      obtain rfl : other = index := by simpa using call
      have inside := (List.getElem?_eq_some_iff.mp at_other).1
      simp [inside] at running
  | leaveLast other at_other last => simp at call
  | leaveEarly other at_other others => simp at call
  | wake other entered asleep => simp at call
  | sleepAgain other awake =>
      obtain rfl : other = index := by simpa using call
      have inside := (List.getElem?_eq_some_iff.mp awake).1
      simp [setParticipant, inside] at running
  | goOn other entered awake ended =>
      obtain rfl : other = index := by simpa using call
      refine ⟨entered, ?_, ?_⟩
      · rw [entered?_append, if_neg (by simp)]
        exact consistent.entered other entered (.inr awake)
      · exact Nat.lt_of_le_of_ne (consistent.woken other entered awake) ended.symm

theorem Consistent.generation_lt (consistent : Consistent participants past assembly)
    (all : ∀ other < participants, isLiveIn past generation other = true →
      hasArrived past generation other = true)
    (waits : assembly.participants[index]? = some (.parked generation) ∨
      assembly.participants[index]? = some (.woken generation)) :
    generation < assembly.barrier.generation := by
  have bound : generation ≤ assembly.barrier.generation := by
    rcases waits with parked | woken
    · exact Nat.le_of_eq (consistent.parked index generation parked)
    · exact consistent.woken index generation woken
  apply Nat.lt_of_le_of_ne bound
  rintro rfl
  -- The waiting participant itself keeps the generation from being empty, so someone is missing.
  have live : 0 < assembly.barrier.threshold := by
    rw [consistent.threshold, List.countP_pos_iff]
    rcases waits with parked | woken
    · exact ⟨_, List.mem_of_getElem? parked, rfl⟩
    · exact ⟨_, List.mem_of_getElem? woken, rfl⟩
  have missing := consistent.progress live
  rw [consistent.pending_eq, List.countP_pos_iff] at missing
  obtain ⟨other, known, awaited⟩ := missing
  rw [Bool.and_eq_true] at awaited
  have stays : isLiveIn past assembly.barrier.generation other = true := by
    have never := awaited.1
    simp only [hasLeft, Bool.not_eq_true', List.any_eq_false] at never
    simp only [isLiveIn, Bool.not_eq_true', List.any_eq_false, Bool.and_eq_true, not_and]
    exact fun moment listed _ => never moment listed
  rw [all other (List.mem_range.mp known) stays] at awaited
  simp at awaited

theorem recheck_returns
    (awake : assembly.participants[index]? = some (.woken generation))
    (ended : generation < assembly.barrier.generation) :
    ∃ next, assembly.step (.recheck index) = some next ∧ Returns (.recheck index) next index := by
  have different : assembly.barrier.generation ≠ generation := by omega
  have inside := (List.getElem?_eq_some_iff.mp awake).1
  refine ⟨assembly.setParticipant index .running, ?_, ?_, .inr rfl⟩
  · simp [step, awake, different]
  · simp [setParticipant, inside]

/-- The counters say who is there and who is missing, the completion runs once for each generation,
and a wait lasts until everyone that its generation counts on has arrived and no longer. -/
theorem generations_in_lockstep (run : Run participants past assembly) :
    assembly.barrier.threshold =
        (List.range participants).countP (fun index => !hasLeft past index) ∧
      assembly.barrier.pending =
        (List.range participants).countP (fun index =>
          !hasLeft past index && !hasArrived past assembly.barrier.generation index) ∧
      assembly.barrier.generation = assembly.completions ∧
      completed past = List.range assembly.barrier.generation ∧
      (∀ action next index, assembly.step action = some next → Returns action next index →
        ∃ generation,
          entered? (past ++ [{ before := assembly, action }]) index = some generation ∧
          generation ∈ completed (past ++ [{ before := assembly, action }]) ∧
          ∀ other < participants,
            isLiveIn (past ++ [{ before := assembly, action }]) generation other = true →
            hasArrived (past ++ [{ before := assembly, action }]) generation other = true) ∧
      (∀ generation,
        (∀ other < participants, isLiveIn past generation other = true →
          hasArrived past generation other = true) →
        ∀ index,
          assembly.participants[index]? ≠ some (.parked generation) ∧
          (assembly.participants[index]? = some (.woken generation) →
            ∃ next, assembly.step (.recheck index) = some next ∧
              Returns (.recheck index) next index)) := by
  have consistent := run.consistent
  refine ⟨consistent.threshold_eq, consistent.pending_eq, consistent.completions.symm,
    consistent.completed, ?_, ?_⟩
  · intro action next index stepped returns
    have after := consistent.step stepped
    obtain ⟨generation, entered, ended⟩ := consistent.returns_after stepped returns
    refine ⟨generation, entered, ?_, after.ended generation ended⟩
    rw [after.completed]
    exact List.mem_range.mpr ended
  · intro generation all index
    constructor
    · intro asleep
      have ended := consistent.generation_lt all (.inl asleep)
      have now := consistent.parked index generation asleep
      omega
    · intro awake
      exact recheck_returns awake (consistent.generation_lt all (.inr awake))

theorem lockstep_with_one_leaving :
    ∃ past assembly, Run 3 past assembly ∧
      assembly.participants = [.woken 0, .gone, .running] ∧
      assembly.barrier.threshold = (List.range 3).countP (fun index => !hasLeft past index) ∧
      completed past = [0] ∧
      ∃ next, assembly.step (.recheck 0) = some next ∧ Returns (.recheck 0) next 0 ∧
        ∃ generation,
          entered? (past ++ [{ before := assembly, action := .recheck 0 }]) 0 = some generation := by
  have run : Run 3 _ _ :=
    ((Run.start.step (.arrive 0) rfl).step (.leave 1) rfl).step (.arrive 2) rfl
  obtain ⟨threshold, _, _, completed, returns, released⟩ := generations_in_lockstep run
  obtain ⟨next, stepped, back⟩ := (released 0 (by decide) 0).2 rfl
  obtain ⟨generation, entered, _⟩ := returns _ next 0 stepped back
  exact ⟨_, _, run, rfl, threshold, completed, next, stepped, back, generation, entered⟩

end TiledStream.Assembly
