import TiledStream.Media.Cursor

/-! A cursor reads its two parts as one: wherever they are split, an exact read finds the bytes that
come next. -/

namespace TiledStream.Cursor

def rest (cursor : Cursor) : Bytes := (cursor.initial ++ cursor.media).drop cursor.position

def skip (cursor : Cursor) (count : Nat) : Cursor :=
  { cursor with position := cursor.position + count }

variable {cursor : Cursor} {count : Nat}

@[simp] theorem length_rest (cursor : Cursor) : cursor.rest.length = cursor.remaining := by
  simp [rest, remaining, length]

@[simp] theorem rest_skip (cursor : Cursor) (count : Nat) :
    (cursor.skip count).rest = cursor.rest.drop count := by
  simp [rest, skip, List.drop_drop]

@[simp] theorem skip_skip (cursor : Cursor) (first second : Nat) :
    (cursor.skip first).skip second = cursor.skip (first + second) := by
  simp [skip, Nat.add_assoc]

theorem chunk_prefix (cursor : Cursor) : cursor.chunk <+: cursor.rest := by
  unfold chunk rest
  by_cases inside : cursor.position < cursor.initial.length
  · rw [if_pos inside, List.drop_append_of_le_length (Nat.le_of_lt inside)]
    exact List.prefix_append _ _
  · rw [if_neg inside, List.drop_append, List.drop_eq_nil_of_le (Nat.le_of_not_lt inside)]
    exact List.prefix_rfl

theorem chunk_ne_nil (more : 0 < cursor.remaining) : cursor.chunk ≠ [] := by
  intro none
  have size := congrArg List.length none
  simp only [remaining, length] at more
  unfold chunk at size
  split at size
  · simp only [List.length_drop, List.length_nil] at size
    omega
  · simp only [List.length_drop, List.length_nil] at size
    omega

theorem read_eq (cursor : Cursor) (count : Nat) :
    ∃ found, cursor.read count = (cursor.rest.take found, cursor.skip found) ∧ found ≤ count ∧
      found ≤ cursor.remaining ∧ (0 < count → 0 < cursor.remaining → 0 < found) := by
  have shorter : cursor.chunk.take count <+: cursor.rest :=
    (List.take_prefix _ _).trans cursor.chunk_prefix
  refine ⟨(cursor.chunk.take count).length, ?_, ?_, ?_, ?_⟩
  · rw [← List.prefix_iff_eq_take.mp shorter]
    rfl
  · rw [List.length_take]
    exact Nat.min_le_left _ _
  · rw [← length_rest]
    exact shorter.length_le
  · intro asked more
    rw [List.length_take]
    have present := List.length_pos_iff.mpr (chunk_ne_nil more)
    omega

@[simp] theorem skip_zero (cursor : Cursor) : cursor.skip 0 = cursor := rfl

theorem read_of_nothing (nothing : cursor.remaining = 0) (count : Nat) :
    cursor.read count = ([], cursor) := by
  obtain ⟨found, taken, _, inside, _⟩ := cursor.read_eq count
  obtain rfl : found = 0 := by omega
  rw [taken, List.take_zero, skip_zero]

/-- An exact read begins with a read that finds some bytes, and goes on where that one stopped. -/
theorem readExact_step (asked : 0 < count) (more : 0 < cursor.remaining) :
    ∃ found, 0 < found ∧ found ≤ count ∧ found ≤ cursor.remaining ∧
      cursor.readExact count =
        (((cursor.skip found).readExact (count - found)).1.map (cursor.rest.take found ++ ·),
          ((cursor.skip found).readExact (count - found)).2) := by
  obtain ⟨found, taken, few, inside, progress⟩ := cursor.read_eq count
  have positive := progress asked more
  have size : (cursor.rest.take found).length = found := by
    rw [List.length_take, length_rest]
    exact Nat.min_eq_left inside
  refine ⟨found, positive, few, inside, ?_⟩
  rw [readExact, if_neg (Nat.ne_of_gt asked)]
  split
  · rename_i after none
    rw [taken, Prod.mk.injEq] at none
    rw [none.1, List.length_nil] at size
    omega
  · rename_i first bytes after read
    rw [taken, Prod.mk.injEq] at read
    obtain ⟨here, rfl⟩ := read
    have same : bytes.length + 1 = found := by rw [← size, here, List.length_cons]
    rw [here, same]

theorem remaining_skip (cursor : Cursor) (count : Nat) :
    (cursor.skip count).remaining = cursor.remaining - count := by
  rw [← length_rest, rest_skip, List.length_drop, length_rest]

theorem readExact_of_le (enough : count ≤ cursor.remaining) :
    cursor.readExact count = (some (cursor.rest.take count), cursor.skip count) := by
  induction count using Nat.strongRecOn generalizing cursor with
  | ind count ih =>
      by_cases nothing : count = 0
      · subst nothing
        rw [readExact]
        rfl
      · obtain ⟨found, positive, few, _, begun⟩ :=
          @readExact_step cursor count (by omega) (by omega)
        have left : count - found ≤ (cursor.skip found).remaining := by
          rw [remaining_skip]
          omega
        have together : cursor.rest.take found ++ (cursor.skip found).rest.take (count - found) =
            cursor.rest.take count := by
          rw [rest_skip, ← List.take_add, Nat.add_sub_cancel' few]
        rw [begun, ih (count - found) (by omega) left]
        simp only [Option.map_some, together, skip_skip, Nat.add_sub_cancel' few]

theorem readExact_of_lt (few : cursor.remaining < count) :
    cursor.readExact count = (none, cursor.skip cursor.remaining) := by
  induction count using Nat.strongRecOn generalizing cursor with
  | ind count ih =>
      by_cases nothing : cursor.remaining = 0
      · rw [readExact, if_neg (by omega), nothing, skip_zero]
        split
        · rename_i after none
          rw [read_of_nothing nothing, Prod.mk.injEq] at none
          rw [none.2]
        · rename_i first bytes after read
          rw [read_of_nothing nothing, Prod.mk.injEq] at read
          exact absurd read.1 (by simp)
      · obtain ⟨found, positive, _, inside, begun⟩ :=
          @readExact_step cursor count (by omega) (by omega)
        have left : (cursor.skip found).remaining < count - found := by
          rw [remaining_skip]
          omega
        rw [begun, ih (count - found) (by omega) left, remaining_skip]
        simp only [Option.map_none, skip_skip, Nat.add_sub_cancel' inside]

theorem readExact_eq_some {bytes : Bytes} {after : Cursor}
    (read : cursor.readExact count = (some bytes, after)) :
    bytes.length = count ∧ cursor.rest = bytes ++ after.rest ∧ after = cursor.skip count := by
  by_cases enough : count ≤ cursor.remaining
  · rw [readExact_of_le enough, Prod.mk.injEq, Option.some.injEq] at read
    obtain ⟨rfl, rfl⟩ := read
    refine ⟨?_, ?_, rfl⟩
    · rw [List.length_take, length_rest, Nat.min_eq_left enough]
    · rw [rest_skip, List.take_append_drop]
  · rw [readExact_of_lt (Nat.lt_of_not_le enough)] at read
    simp at read

theorem readToEnd_eq (cursor : Cursor) :
    cursor.readToEnd = (cursor.rest, cursor.skip cursor.remaining) := by
  generalize left : cursor.remaining = remaining
  induction remaining using Nat.strongRecOn generalizing cursor with
  | ind remaining ih =>
      subst left
      obtain ⟨found, taken, _, inside, progress⟩ := cursor.read_eq cursor.remaining
      have size : (cursor.rest.take found).length = found := by
        rw [List.length_take, length_rest]
        exact Nat.min_eq_left inside
      rw [readToEnd]
      split
      · rename_i after none
        rw [taken, Prod.mk.injEq] at none
        obtain ⟨none, rfl⟩ := none
        rw [none, List.length_nil] at size
        have nothing : cursor.remaining = 0 := by omega
        have empty : cursor.rest = [] := by
          rw [← List.length_eq_zero_iff, length_rest, nothing]
        rw [empty, ← size, nothing]
      · rename_i first bytes after read
        rw [taken, Prod.mk.injEq] at read
        obtain ⟨here, rfl⟩ := read
        have some : 0 < found := by rw [← size, here, List.length_cons]; omega
        have shorter : (cursor.skip found).remaining < cursor.remaining := by
          rw [remaining_skip]
          omega
        simp only [ih _ shorter _ rfl, remaining_skip, skip_skip, Nat.add_sub_cancel' inside,
          ← here, rest_skip, List.take_append_drop]

theorem readExact_append {bytes following : Bytes} (ahead : cursor.rest = bytes ++ following)
    (length : bytes.length = count) :
    cursor.readExact count = (some bytes, cursor.skip count) ∧
      (cursor.skip count).rest = following := by
  subst length
  have enough : bytes.length ≤ cursor.remaining := by
    rw [← length_rest, ahead, List.length_append]
    exact Nat.le_add_right _ _
  constructor
  · rw [readExact_of_le enough, ahead, List.take_left]
  · rw [rest_skip, ahead, List.drop_left]

end TiledStream.Cursor
