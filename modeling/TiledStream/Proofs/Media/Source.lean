import TiledStream.Media.Script

/-! A frame source hands out what its decoder returned, each frame once and in order, however the two
ways to pull frames are mixed. -/

namespace TiledStream

abbrev Record := List (Except Failure (List Frame))

def Record.frames (record : Record) : List Frame :=
  record.flatMap fun
    | .ok frames => frames
    | .error _ => []

@[simp] theorem Record.frames_nil : Record.frames [] = [] := rfl

@[simp] theorem Record.frames_append (first second : Record) :
    Record.frames (first ++ second) = first.frames ++ second.frames :=
  List.flatMap_append

@[simp] theorem Record.frames_ok (frames : List Frame) : Record.frames [.ok frames] = frames :=
  List.append_nil frames

@[simp] theorem Record.frames_error (failure : Failure) : Record.frames [.error failure] = [] := rfl

theorem Record.frames_of_empty {record : Record} (empty : ∀ round ∈ record, round = .ok []) :
    record.frames = [] := by
  refine List.flatMap_eq_nil_iff.mpr fun round member => ?_
  rw [empty round member]

namespace Engine

inductive Sends (engine : Engine) : engine.State → Record → engine.State → Prop
  | done (decoder : engine.State) : Sends engine decoder [] decoder
  | round {decoder last : engine.State} {record : Record}
      (going : engine.isFlushed decoder = false)
      (following : Sends engine (engine.send decoder).2 record last) :
      Sends engine decoder ((engine.send decoder).1 :: record) last

variable {engine : Engine} {decoder between last : engine.State} {record : Record}

theorem Sends.append {more : Record} (first : engine.Sends decoder record between)
    (second : engine.Sends between more last) : engine.Sends decoder (record ++ more) last := by
  induction first with
  | done decoder => exact second
  | round going _ ih => exact .round going (ih second)

theorem Sends.single (going : engine.isFlushed decoder = false) :
    engine.Sends decoder [(engine.send decoder).1] (engine.send decoder).2 :=
  .round going (.done _)

/-- Where the rounds of a decoder end is where it is flushed first, so two ways there are one. -/
theorem Sends.unique {other : engine.State} {more : Record}
    (first : engine.Sends decoder record last) (flushed : engine.isFlushed last = true)
    (second : engine.Sends decoder more other) (otherFlushed : engine.isFlushed other = true) :
    more = record ∧ other = last := by
  induction first generalizing more with
  | done decoder =>
      cases second with
      | done => exact ⟨rfl, rfl⟩
      | round going => simp [flushed] at going
  | round going _ ih =>
      cases second with
      | done => simp [otherFlushed] at going
      | round _ following =>
          obtain ⟨rfl, same⟩ := ih flushed following
          exact ⟨rfl, same⟩

/-- The engine with a recorder beside each decoder, which notes what the rounds return. -/
def recording (engine : Engine) : Engine where
  State := engine.State × Record
  openSegment concurrency cursor :=
    (engine.openSegment concurrency cursor).map fun decoder => (decoder, [])
  send state :=
    ((engine.send state.1).1, (engine.send state.1).2, state.2 ++ [(engine.send state.1).1])
  isFlushed state := engine.isFlushed state.1

end Engine

namespace FrameSource

variable {engine : Engine} {source after : FrameSource engine} {limit : Nat}

def recorded (source : FrameSource engine) (record : Record) : FrameSource engine.recording :=
  { decoder := (source.decoder, record), pending := source.pending, rounds := source.rounds }

inductive Way where
  | batch
  | one
  deriving DecidableEq

def pull (source : FrameSource engine) (limit : Nat) :
    Way → Option (Except Failure (List Frame) × FrameSource engine)
  | .batch => source.consumeBatch limit
  | .one => (source.consumeOne limit).map fun pulled => (pulled.1.map Option.toList, pulled.2)

def pullAll (source : FrameSource engine) : List (Way × Nat) → Option (Record × FrameSource engine)
  | [] => some ([], source)
  | (way, limit) :: pulls =>
    (source.pull limit way).bind fun pulled =>
      (pulled.2.pullAll pulls).map fun others => (pulled.1 :: others.1, others.2)

theorem hasMore_eq_false :
    source.hasMore = false ↔ source.pending = [] ∧ engine.isFlushed source.decoder = true := by
  simp [hasMore]

theorem round_eq (source : FrameSource engine) :
    source.round.1 = (engine.send source.decoder).1 ∧
      source.round.2.decoder = (engine.send source.decoder).2 ∧
      source.round.2.pending = source.pending := by
  unfold round
  split <;> simp_all

theorem round_recorded (source : FrameSource engine) (record : Record) :
    (source.recorded record).round =
      (source.round.1, source.round.2.recorded (record ++ [source.round.1])) := by
  unfold round recorded
  cases sent : engine.send source.decoder with
  | mk result decoder => cases result <;> simp [Engine.recording, sent]

theorem runRounds_eq_some {result : Except Failure (List Frame)}
    (going : engine.isFlushed source.decoder = false)
    (ran : source.runRounds limit = some (result, after)) :
    ∃ empties : Record, (∀ round ∈ empties, round = .ok []) ∧
      engine.Sends source.decoder (empties ++ [result]) after.decoder ∧
      after.pending = source.pending ∧
      (result = .ok [] → engine.isFlushed after.decoder = true) ∧
      ∀ record, (source.recorded record).runRounds limit =
        some (result, after.recorded (record ++ (empties ++ [result]))) := by
  induction limit generalizing source with
  | zero => simp [runRounds] at ran
  | succ limit ih =>
      obtain ⟨sent, decoder, pending⟩ := source.round_eq
      have alone := Engine.Sends.single going
      rw [← sent, ← decoder] at alone
      have noted := source.round_recorded
      rw [runRounds] at ran
      simp only [runRounds, noted]
      rcases round : source.round with ⟨first, next⟩
      rw [round] at ran alone pending
      cases first with
      | error failure =>
          obtain ⟨rfl, rfl⟩ := Prod.mk.inj (Option.some.inj ran)
          exact ⟨[], List.forall_mem_nil _, alone, pending, by simp, fun record => rfl⟩
      | ok frames =>
          change (if _ then _ else _) = _ at ran
          change ∃ empties : Record, _ ∧ _ ∧ _ ∧ _ ∧ ∀ record,
            (if (!frames.isEmpty || engine.isFlushed next.decoder) = true then _ else _) = _
          by_cases decided : (!frames.isEmpty || engine.isFlushed next.decoder) = true
          · rw [if_pos decided] at ran
            obtain ⟨rfl, rfl⟩ := Prod.mk.inj (Option.some.inj ran)
            refine ⟨[], List.forall_mem_nil _, alone, pending, ?_, fun record => ?_⟩
            · intro none
              obtain rfl := Except.ok.inj none
              simpa using decided
            · rw [if_pos decided]
              rfl
          · rw [if_neg decided] at ran
            simp only [Bool.or_eq_true, Bool.not_eq_true', not_or, Bool.not_eq_true,
              Bool.not_eq_false, List.isEmpty_iff] at decided
            obtain ⟨rfl, unflushed⟩ := decided
            obtain ⟨empties, empty, sends, kept, flushed, recorded⟩ := ih unflushed ran
            refine ⟨.ok [] :: empties, ?_, alone.append sends, kept.trans pending, flushed,
              fun record => ?_⟩
            · simpa using empty
            · rw [if_neg (by simp [unflushed]), recorded]
              simp

structure Accounts (source : FrameSource engine) (limit : Nat) (way : Way)
    (answer : Except Failure (List Frame)) (after : FrameSource engine) (record : Record) :
    Prop where
  sends : engine.Sends source.decoder record after.decoder
  kept : Record.frames [answer] ++ after.pending = source.pending ++ record.frames
  recorded : ∀ before, (source.recorded before).pull limit way =
    some (answer, after.recorded (before ++ record))
  fails : ∀ failure, answer = .error failure →
    (source.hasMore = false ∧ record = [] ∧ failure = .error .streamDrained) ∨
      ∃ earlier, record = earlier ++ [.error failure]

theorem consumeBatch_of_pending (some : source.pending ≠ []) (limit : Nat) :
    source.consumeBatch limit = Option.some (.ok source.pending, { source with pending := [] }) := by
  rw [consumeBatch, if_pos (by simpa using some)]

theorem consumeBatch_of_flushed (none : source.pending = [])
    (flushed : engine.isFlushed source.decoder = true) (limit : Nat) :
    source.consumeBatch limit = some (.error (.error .streamDrained), source) := by
  rw [consumeBatch, if_neg (by simpa using none), if_pos flushed]

theorem consumeBatch_of_rounds (none : source.pending = [])
    (going : engine.isFlushed source.decoder = false) (limit : Nat) :
    source.consumeBatch limit = source.runRounds limit := by
  rw [consumeBatch, if_neg (by simpa using none), if_neg (by simpa using going)]

theorem accounts_batch {answer : Except Failure (List Frame)}
    (pulled : source.consumeBatch limit = some (answer, after)) :
    ∃ record, source.Accounts limit .batch answer after record := by
  by_cases none : source.pending = []
  · cases flushed : engine.isFlushed source.decoder with
    | true =>
        rw [consumeBatch_of_flushed none flushed] at pulled
        obtain ⟨rfl, rfl⟩ := Prod.mk.inj (Option.some.inj pulled)
        refine ⟨[], .done _, ?_, fun before => ?_, ?_⟩
        · simp
        · rw [pull, @consumeBatch_of_flushed _ (source.recorded before) none flushed,
            List.append_nil]
        · intro failure same
          exact .inl ⟨hasMore_eq_false.mpr ⟨none, flushed⟩, rfl, (Except.error.inj same).symm⟩
    | false =>
        rw [consumeBatch_of_rounds none flushed] at pulled
        obtain ⟨empties, empty, sends, kept, _, recorded⟩ := runRounds_eq_some flushed pulled
        refine ⟨empties ++ [answer], sends, ?_, fun before => ?_, ?_⟩
        · rw [kept, none, Record.frames_append, Record.frames_of_empty empty]
          simp
        · rw [pull, @consumeBatch_of_rounds _ (source.recorded before) none flushed, recorded]
        · rintro failure rfl
          exact .inr ⟨empties, rfl⟩
  · rw [consumeBatch_of_pending none] at pulled
    obtain ⟨rfl, rfl⟩ := Prod.mk.inj (Option.some.inj pulled)
    refine ⟨[], .done _, ?_, fun before => ?_, by simp⟩
    · simp
    · rw [pull, @consumeBatch_of_pending _ (source.recorded before) none, List.append_nil]
      rfl

theorem takePending_eq (source : FrameSource engine) :
    source.takePending = (source.pending.head?, { source with pending := source.pending.tail }) := by
  unfold takePending
  split
  · rename_i none
    cases source
    simp_all
  · rename_i frame rest some
    simp [some]

theorem ready_or_going (source : FrameSource engine) :
    (source.pending ≠ [] ∨ engine.isFlushed source.decoder = true) ∨
      source.pending = [] ∧ engine.isFlushed source.decoder = false := by
  by_cases none : source.pending = []
  · cases flushed : engine.isFlushed source.decoder with
    | true => exact .inl (.inr rfl)
    | false => exact .inr ⟨none, rfl⟩
  · exact .inl (.inl none)

theorem consumeOne_of_pending (ready : source.pending ≠ [] ∨ engine.isFlushed source.decoder = true)
    (limit : Nat) :
    source.consumeOne limit =
      some (.ok source.pending.head?, { source with pending := source.pending.tail }) := by
  have stays : ¬(source.pending.isEmpty && !engine.isFlushed source.decoder) = true := by
    rcases ready with some | flushed
    · simp [some]
    · simp [flushed]
  rw [consumeOne, if_neg stays, takePending_eq]

theorem consumeOne_of_rounds (none : source.pending = [])
    (going : engine.isFlushed source.decoder = false) (limit : Nat) :
    source.consumeOne limit = (source.runRounds limit).map fun ran =>
      match ran with
      | (.ok frames, after) => (.ok (after.pending ++ frames).head?,
          { after with pending := (after.pending ++ frames).tail })
      | (.error failure, after) => (.error failure, after) := by
  have runs : (source.pending.isEmpty && !engine.isFlushed source.decoder) = true := by
    simp [none, going]
  rw [consumeOne, if_pos runs]
  cases source.runRounds limit with
  | none => rfl
  | some ran =>
      obtain ⟨result, after⟩ := ran
      cases result with
      | error failure => rfl
      | ok frames =>
          simp only [takePending_eq]
          rfl

theorem head?_append_tail (frames : List Frame) : frames.head?.toList ++ frames.tail = frames := by
  cases frames <;> rfl

theorem accounts_one {answer : Except Failure (Option Frame)}
    (pulled : source.consumeOne limit = some (answer, after)) :
    ∃ record, source.Accounts limit .one (answer.map Option.toList) after record := by
  rcases source.ready_or_going with ready | ⟨none, going⟩
  · rw [consumeOne_of_pending ready] at pulled
    obtain ⟨rfl, rfl⟩ := Prod.mk.inj (Option.some.inj pulled)
    refine ⟨[], .done _, ?_, fun before => ?_, by simp [Except.map]⟩
    · change Record.frames [.ok source.pending.head?.toList] ++ source.pending.tail = _
      rw [Record.frames_ok, head?_append_tail, Record.frames_nil, List.append_nil]
    · rw [pull, @consumeOne_of_pending _ (source.recorded before) ready, List.append_nil]
      rfl
  · rw [consumeOne_of_rounds none going, Option.map_eq_some_iff] at pulled
    obtain ⟨⟨result, next⟩, ran, same⟩ := pulled
    obtain ⟨empties, empty, sends, kept, _, recorded⟩ := runRounds_eq_some going ran
    have noted (before : Record) : (source.recorded before).consumeOne limit = _ :=
      @consumeOne_of_rounds _ (source.recorded before) none going limit
    simp only [recorded] at noted
    rw [none] at kept
    cases result with
    | error failure =>
        obtain ⟨rfl, rfl⟩ := Prod.mk.inj same
        refine ⟨empties ++ [.error failure], sends, ?_, fun before => ?_, ?_⟩
        · rw [kept, none, Record.frames_append, Record.frames_of_empty empty]
          rfl
        · rw [pull, noted]
          rfl
        · intro other same
          rw [← Except.error.inj same]
          exact .inr ⟨empties, rfl⟩
    | ok frames =>
        obtain ⟨rfl, rfl⟩ := Prod.mk.inj same
        refine ⟨empties ++ [.ok frames], sends, ?_, fun before => ?_, by simp [Except.map]⟩
        · change Record.frames [.ok (next.pending ++ frames).head?.toList] ++
            (next.pending ++ frames).tail = _
          rw [Record.frames_ok, head?_append_tail, kept, none, Record.frames_append,
            Record.frames_of_empty empty, Record.frames_ok]
          rfl
        · rw [pull, noted]
          rfl

theorem pull_accounts {way : Way} {answer : Except Failure (List Frame)}
    (pulled : source.pull limit way = some (answer, after)) :
    ∃ record, source.Accounts limit way answer after record := by
  cases way with
  | batch => exact accounts_batch pulled
  | one =>
      rw [pull, Option.map_eq_some_iff] at pulled
      obtain ⟨⟨result, next⟩, consumed, same⟩ := pulled
      obtain ⟨rfl, rfl⟩ := Prod.mk.inj same
      exact accounts_one consumed

theorem pullAll_accounts {pulls : List (Way × Nat)} {answers : Record}
    (pulled : source.pullAll pulls = some (answers, after)) :
    ∃ record, engine.Sends source.decoder record after.decoder ∧
      answers.frames ++ after.pending = source.pending ++ record.frames ∧
      ∀ before, (source.recorded before).pullAll pulls =
        some (answers, after.recorded (before ++ record)) := by
  induction pulls generalizing source answers with
  | nil =>
      obtain ⟨rfl, rfl⟩ := Prod.mk.inj (Option.some.inj pulled)
      refine ⟨[], .done _, ?_, fun before => ?_⟩
      · simp
      · rw [List.append_nil]
        rfl
  | cons first pulls ih =>
      obtain ⟨way, limit⟩ := first
      rw [pullAll, Option.bind_eq_some_iff] at pulled
      obtain ⟨⟨answer, next⟩, here, pulled⟩ := pulled
      rw [Option.map_eq_some_iff] at pulled
      obtain ⟨⟨others, last⟩, later, same⟩ := pulled
      obtain ⟨rfl, rfl⟩ := Prod.mk.inj same
      obtain ⟨record, accounts⟩ := pull_accounts here
      obtain ⟨more, sends, kept, recorded⟩ := ih later
      refine ⟨record ++ more, accounts.sends.append sends, ?_, fun before => ?_⟩
      · rw [← List.singleton_append, Record.frames_append, List.append_assoc, kept,
          ← List.append_assoc, accounts.kept, Record.frames_append, List.append_assoc]
      · rw [pullAll, accounts.recorded, Option.bind_some, recorded, List.append_assoc]
        rfl

theorem empty_batch_flushed (pulled : source.consumeBatch limit = some (.ok [], after)) :
    engine.isFlushed after.decoder = true := by
  by_cases none : source.pending = []
  · cases flushed : engine.isFlushed source.decoder with
    | true =>
        rw [consumeBatch_of_flushed none flushed] at pulled
        simp at pulled
    | false =>
        rw [consumeBatch_of_rounds none flushed] at pulled
        obtain ⟨_, _, _, _, decided, _⟩ := runRounds_eq_some flushed pulled
        exact decided rfl
  · rw [consumeBatch_of_pending none] at pulled
    exact absurd (Except.ok.inj (Prod.mk.inj (Option.some.inj pulled)).1) none

def DrainsBy (source : FrameSource engine) (way : Way) (frames : List Frame) : Prop :=
  ∃ pulls answers after, (∀ pull ∈ pulls, pull.1 = way) ∧
    source.pullAll pulls = some (answers, after) ∧ after.hasMore = false ∧
    Record.frames answers = frames

variable {way : Way} {frames : List Frame}

theorem DrainsBy.none (drained : source.hasMore = false) : source.DrainsBy way [] :=
  ⟨[], [], source, List.forall_mem_nil _, rfl, drained, rfl⟩

theorem DrainsBy.cons {answer : Except Failure (List Frame)}
    (pulled : source.pull limit way = some (answer, after)) (rest : after.DrainsBy way frames) :
    source.DrainsBy way (Record.frames [answer] ++ frames) := by
  obtain ⟨pulls, answers, last, ways, later, drained, rfl⟩ := rest
  refine ⟨(way, limit) :: pulls, answer :: answers, last, ?_, ?_, drained, ?_⟩
  · exact List.forall_mem_cons.mpr ⟨rfl, ways⟩
  · rw [pullAll, pulled, Option.bind_some, later]
    rfl
  · rw [← Record.frames_append, List.singleton_append]

theorem DrainsBy.pending {pending : List Frame}
    (rest : { source with pending := [] }.DrainsBy way frames) :
    { source with pending }.DrainsBy way (pending ++ frames) := by
  induction pending with
  | nil => exact rest
  | cons frame pending ih =>
      have some : { source with pending := frame :: pending }.pending ≠ [] := List.cons_ne_nil _ _
      cases way with
      | batch =>
          have pulled : { source with pending := frame :: pending }.pull 0 .batch = _ :=
            consumeBatch_of_pending some 0
          have drains := DrainsBy.cons pulled rest
          rwa [Record.frames_ok] at drains
      | one =>
          have pulled : { source with pending := frame :: pending }.pull 0 .one =
              Option.some (.ok [frame], { source with pending }) := by
            rw [pull, consumeOne_of_pending (.inl some)]
            rfl
          exact DrainsBy.cons pulled ih

theorem runRounds_of_sends {record : Record} {last : engine.State}
    (sends : engine.Sends source.decoder record last) (flushed : engine.isFlushed last = true)
    (going : engine.isFlushed source.decoder = false) :
    ∃ result after fewer, source.runRounds record.length = some (result, after) ∧
      engine.Sends after.decoder fewer last ∧ fewer.length < record.length := by
  generalize here : source.decoder = decoder at sends going
  induction sends generalizing source with
  | done => simp [flushed] at going
  | @round decoder last record _ following ih =>
      subst here
      obtain ⟨_, next, _⟩ := source.round_eq
      rw [← next] at following
      rw [List.length_cons, runRounds]
      rcases round : source.round with ⟨first, after⟩
      rw [round] at following
      cases first with
      | error failure => exact ⟨_, after, record, rfl, following, Nat.lt_succ_self _⟩
      | ok frames =>
          change ∃ result last' fewer,
            (if (!frames.isEmpty || engine.isFlushed after.decoder) = true then _ else _) = _ ∧ _ ∧ _
          by_cases decided : (!frames.isEmpty || engine.isFlushed after.decoder) = true
          · rw [if_pos decided]
            exact ⟨_, after, record, rfl, following, Nat.lt_succ_self _⟩
          · rw [if_neg decided]
            have unflushed : engine.isFlushed after.decoder = false := by
              simp only [Bool.or_eq_true, not_or, Bool.not_eq_true] at decided
              exact decided.2
            have same : after.decoder = (engine.send source.decoder).2 := by
              rw [← next, round]
            obtain ⟨result, last', fewer, ran, rest, short⟩ := ih flushed same (same ▸ unflushed)
            exact ⟨result, last', fewer, ran, rest, Nat.lt_succ_of_lt short⟩

theorem drainsBy_of_rounds {record : Record} {last : engine.State} (none : source.pending = [])
    (sends : engine.Sends source.decoder record last) (flushed : engine.isFlushed last = true)
    (later : ∀ (after : FrameSource engine) (fewer : Record), fewer.length < record.length →
      engine.Sends after.decoder fewer last → after.DrainsBy way (after.pending ++ fewer.frames)) :
    source.DrainsBy way record.frames := by
  cases stop : engine.isFlushed source.decoder with
  | true =>
      obtain ⟨rfl, _⟩ := Engine.Sends.unique (.done source.decoder) stop sends flushed
      exact .none (hasMore_eq_false.mpr ⟨none, stop⟩)
  | false =>
      obtain ⟨result, after, fewer, ran, rest, short⟩ := runRounds_of_sends sends flushed stop
      obtain ⟨empties, empty, sent, kept, _, _⟩ := runRounds_eq_some stop ran
      rw [none] at kept
      obtain ⟨whole, _⟩ := Engine.Sends.unique (sent.append rest) flushed sends flushed
      have split : record.frames = Record.frames [result] ++ fewer.frames := by
        rw [whole, Record.frames_append, Record.frames_append, Record.frames_of_empty empty,
          List.nil_append]
      rw [split]
      have drains := later after fewer short rest
      rw [kept, List.nil_append] at drains
      cases way with
      | batch =>
          have pulled : source.pull _ .batch = _ := (consumeBatch_of_rounds none stop _).trans ran
          exact DrainsBy.cons pulled drains
      | one =>
          have pulled := consumeOne_of_rounds none stop record.length
          rw [ran] at pulled
          cases result with
          | error failure =>
              have one : source.pull record.length .one = some (.error failure, after) := by
                rw [pull, pulled]
                rfl
              exact DrainsBy.cons one drains
          | ok frames =>
              have one : source.pull record.length .one =
                  some (.ok frames.head?.toList, { after with pending := frames.tail }) := by
                simp only [pull, pulled, Option.map_some, kept, List.nil_append, Except.map]
              have all := DrainsBy.cons one (later { after with pending := frames.tail } fewer short rest)
              rwa [Record.frames_ok, ← List.append_assoc, head?_append_tail,
                ← Record.frames_ok frames] at all

/-- A source whose decoder is flushed some time can be drained in either way, and hands out what is
pending and what the rounds return. -/
theorem drainsBy_of_sends {record : Record} {last : engine.State}
    (sends : engine.Sends source.decoder record last) (flushed : engine.isFlushed last = true)
    (way : Way) : source.DrainsBy way (source.pending ++ record.frames) := by
  generalize size : record.length = rounds
  induction rounds using Nat.strongRecOn generalizing source record with
  | ind rounds ih =>
      subst size
      have rest : { source with pending := [] }.DrainsBy way record.frames :=
        drainsBy_of_rounds rfl sends flushed fun after fewer short following =>
          ih fewer.length short following rfl
      exact DrainsBy.pending rest

theorem DrainsBy.other (drains : source.DrainsBy way frames) (other : Way) :
    source.DrainsBy other frames := by
  obtain ⟨pulls, answers, after, _, pulled, drained, rfl⟩ := drains
  obtain ⟨record, sends, kept, _⟩ := pullAll_accounts pulled
  obtain ⟨none, flushed⟩ := hasMore_eq_false.mp drained
  rw [none, List.append_nil] at kept
  rw [kept]
  exact drainsBy_of_sends sends flushed other

/-- The frames that pulls have handed out and those that are still pending are those that were pending
at first and those that the rounds since returned, in this order, also where pulls or rounds failed. An
empty batch means a flushed decoder. A source that has no more answers so for good, and no source says
of itself that it is drained while it has more. Either way to drain a source hands out the same
frames, and if one way drains it, so does the other. -/
theorem frames_accounted (source : FrameSource engine) :
    (∀ pulls answers after, source.pullAll pulls = some (answers, after) →
      ∃ record : Record, engine.Sends source.decoder record after.decoder ∧
        (source.recorded []).pullAll pulls = some (answers, after.recorded record) ∧
        answers.frames ++ after.pending = source.pending ++ record.frames ∧
        (after.hasMore = false → answers.frames = source.pending ++ record.frames)) ∧
    (∀ limit after, source.consumeBatch limit = some (.ok [], after) →
      engine.isFlushed after.decoder = true) ∧
    (source.hasMore = false → ∀ limit, source.consumeOne limit = some (.ok none, source) ∧
      source.consumeBatch limit = some (.error (.error .streamDrained), source)) ∧
    (∀ limit way failure after, source.pull limit way = some (.error failure, after) →
      (source.hasMore = false ∧ failure = .error .streamDrained) ∨
      ∃ earlier, (source.recorded []).pull limit way =
        some (.error failure, after.recorded (earlier ++ [.error failure]))) ∧
    ∀ frames, source.DrainsBy .one frames ↔ source.DrainsBy .batch frames := by
  refine ⟨?_, fun limit after => empty_batch_flushed, ?_, ?_, fun frames => ?_⟩
  · intro pulls answers after pulled
    obtain ⟨record, sends, kept, recorded⟩ := pullAll_accounts pulled
    refine ⟨record, sends, recorded [], kept, fun drained => ?_⟩
    rw [(hasMore_eq_false.mp drained).1, List.append_nil] at kept
    exact kept
  · intro drained limit
    obtain ⟨none, flushed⟩ := hasMore_eq_false.mp drained
    refine ⟨?_, consumeBatch_of_flushed none flushed limit⟩
    rw [consumeOne_of_pending (.inr flushed)]
    cases source
    simp_all
  · intro limit way failure after pulled
    obtain ⟨record, accounts⟩ := pull_accounts pulled
    rcases accounts.fails failure rfl with ⟨drained, _, own⟩ | ⟨earlier, rfl⟩
    · exact .inl ⟨drained, own⟩
    · exact .inr ⟨earlier, accounts.recorded []⟩
  · exact ⟨fun drains => drains.other .batch, fun drains => drains.other .one⟩

def stumbling : FrameSource Script.engine where
  decoder := [.frames [Frame.unnumbered 0 0 [1]], .frames [], .fails .aborted,
    .frames [Frame.unnumbered 0 0 [2], Frame.unnumbered 0 0 [3]], .frames []]
  pending := []
  rounds := 0

theorem stumbling_accounted :
    ∃ failing after last drained : FrameSource Script.engine,
      stumbling.pullAll [(.batch, 1), (.one, 2), (.one, 1), (.batch, 0)] = some
        ([.ok [Frame.unnumbered 0 0 [1]], .error (.error .aborted), .ok [Frame.unnumbered 0 0 [2]],
          .ok [Frame.unnumbered 0 0 [3]]], last) ∧
      (∃ record : Record, Script.engine.Sends stumbling.decoder record last.decoder ∧
        record.frames = [1, 2, 3].map fun byte => Frame.unnumbered 0 0 [byte]) ∧
      failing.pull 2 .one = some (.error (.error .aborted), after) ∧ failing.hasMore = true ∧
      (∃ earlier, (failing.recorded []).pull 2 .one =
        some (.error (.error .aborted), after.recorded (earlier ++ [.error (.error .aborted)]))) ∧
      last.consumeBatch 1 = some (.ok [], drained) ∧
      Script.engine.isFlushed drained.decoder = true ∧ drained.hasMore = false ∧
      drained.consumeOne 0 = some (.ok none, drained) ∧
      drained.consumeBatch 0 = some (.error (.error .streamDrained), drained) ∧
      stumbling.DrainsBy .batch ([1, 2, 3].map fun byte => Frame.unnumbered 0 0 [byte]) := by
  let failing : FrameSource Script.engine :=
    { decoder := stumbling.decoder.drop 1, pending := [], rounds := 1 }
  let after : FrameSource Script.engine :=
    { decoder := stumbling.decoder.drop 3, pending := [], rounds := 2 }
  let last : FrameSource Script.engine := { decoder := [.frames []], pending := [], rounds := 3 }
  let drained : FrameSource Script.engine := { decoder := [], pending := [], rounds := 4 }
  have pulled : stumbling.pullAll [(.batch, 1), (.one, 2), (.one, 1), (.batch, 0)] = some
      ([.ok [Frame.unnumbered 0 0 [1]], .error (.error .aborted), .ok [Frame.unnumbered 0 0 [2]],
        .ok [Frame.unnumbered 0 0 [3]]], last) := rfl
  have fails : failing.pull 2 .one = some (.error (.error .aborted), after) := rfl
  have more : failing.hasMore = true := rfl
  have empty : last.consumeBatch 1 = some (.ok [], drained) := rfl
  have finished : drained.hasMore = false := rfl
  have ones : stumbling.DrainsBy .one ([1, 2, 3].map fun byte => Frame.unnumbered 0 0 [byte]) :=
    ⟨[(.one, 1), (.one, 2), (.one, 1), (.one, 0), (.one, 1)], _, drained, by decide, rfl, rfl, rfl⟩
  obtain ⟨accounted, _, _, _, same⟩ := frames_accounted stumbling
  obtain ⟨record, sends, _, kept, _⟩ := accounted _ _ _ pulled
  have told : ∃ earlier, (failing.recorded []).pull 2 .one = _ :=
    ((frames_accounted failing).2.2.2.1 2 .one _ after fails).resolve_left fun own => by
      simp [more] at own
  obtain ⟨answersOne, answersBatch⟩ := (frames_accounted drained).2.2.1 finished 0
  exact ⟨failing, after, last, drained, pulled, ⟨record, sends, kept.symm⟩, fails, more, told, empty,
    (frames_accounted last).2.1 1 drained empty, finished, answersOne, answersBatch,
    (same _).mp ones⟩

end FrameSource

end TiledStream
