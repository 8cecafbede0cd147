import TiledStream.Text.Search

/-! Replacing a part of a text puts the replacement for every occurrence, from the left and without
overlap, and leaves the rest of the text as it is. -/

namespace TiledStream.Text

structure Leftmost (isMark : List Char → Prop) (text before mark rest : List Char) : Prop where
  parts : text = before ++ mark ++ rest
  marks : isMark mark
  first : ∀ earlier other, isMark other → earlier ++ other <+: text →
    before.length ≤ earlier.length

inductive Replaced (part replacement : List Char) : (text result : List Char) → Prop where
  | plain {text : List Char} : ¬part <:+: text → Replaced part replacement text text
  | first {text before rest result : List Char} :
      Leftmost (· = part) text before part rest → Replaced part replacement rest result →
      Replaced part replacement text (before ++ replacement ++ result)

variable {isMark : List Char → Prop} {c : Char}
  {text before mark rest part replacement result : List Char}

theorem Leftmost.head (marks : isMark mark) : Leftmost isMark (mark ++ rest) [] mark rest :=
  { parts := rfl
    marks
    first := fun _ _ _ _ => Nat.zero_le _ }

theorem Leftmost.cons (leftmost : Leftmost isMark text before mark rest)
    (none : ∀ other, isMark other → ¬other <+: c :: text) :
    Leftmost isMark (c :: text) (c :: before) mark rest := by
  refine { parts := ?_, marks := leftmost.marks, first := ?_ }
  · rw [leftmost.parts]
    rfl
  · intro earlier other marks found
    cases earlier with
    | nil => exact absurd found (none other marks)
    | cons d earlier =>
        have after := (List.cons_prefix_cons.mp found).2
        exact Nat.succ_le_succ (leftmost.first earlier other marks after)

/-- Nothing is a mark before the character that all marks begin with. -/
theorem Leftmost.plain (marks : isMark mark)
    (begins : ∀ other, isMark other → ∃ tail, other = c :: tail) (absent : c ∉ before) :
    Leftmost isMark (before ++ mark ++ rest) before mark rest := by
  induction before with
  | nil => exact .head marks
  | cons d before ih =>
      rw [List.mem_cons, not_or] at absent
      refine (ih absent.2).cons ?_
      intro other also found
      obtain ⟨tail, rfl⟩ := begins other also
      exact absent.1 (List.cons_prefix_cons.mp found).1

theorem Leftmost.unique {before' mark' rest' : List Char}
    (leftmost : Leftmost isMark text before mark rest)
    (also : Leftmost isMark text before' mark' rest')
    (apart : ∀ left right, isMark left → isMark right → left <+: right → left = right) :
    before = before' ∧ mark = mark' ∧ rest = rest' := by
  have length : before.length = before'.length := by
    have le := leftmost.first before' mark' also.marks ⟨rest', also.parts.symm⟩
    have ge := also.first before mark leftmost.marks ⟨rest, leftmost.parts.symm⟩
    omega
  have same := leftmost.parts.symm.trans also.parts
  rw [List.append_assoc, List.append_assoc] at same
  obtain ⟨rfl, follows⟩ := List.append_inj same length
  have marks : mark = mark' := by
    rcases List.prefix_or_prefix_of_prefix ⟨rest, follows⟩ (List.prefix_append mark' rest') with
      shorter | longer
    · exact apart mark mark' leftmost.marks also.marks shorter
    · exact (apart mark' mark also.marks leftmost.marks longer).symm
  subst marks
  exact ⟨rfl, rfl, List.append_cancel_left follows⟩

theorem Replaced.cons (replaced : Replaced part replacement text result)
    (none : ¬part <+: c :: text) : Replaced part replacement (c :: text) (c :: result) := by
  cases replaced with
  | plain absent =>
      refine .plain ?_
      intro found
      rcases List.infix_cons_iff.mp found with here | later
      · exact none here
      · exact absent later
  | first leftmost following =>
      refine .first (leftmost.cons ?_) following
      rintro other rfl
      exact none

theorem replaced_replaceFrom (nonempty : part ≠ []) (skip : Nat) (text : List Char) :
    Replaced part replacement (text.drop skip) (replaceFrom part replacement skip text) := by
  induction text generalizing skip with
  | nil =>
      rw [List.drop_nil, replaceFrom]
      exact .plain fun found => nonempty (List.eq_nil_of_infix_nil found)
  | cons c text ih =>
      cases skip with
      | succ skip => exact ih skip
      | zero =>
          rw [List.drop_zero, replaceFrom]
          split
          · rename_i starts
            obtain ⟨rest, same⟩ := List.isPrefixOf_iff_prefix.mp starts
            obtain ⟨d, covered, rfl⟩ := List.exists_cons_of_ne_nil nonempty
            rw [List.cons_append, List.cons.injEq] at same
            obtain ⟨rfl, rfl⟩ := same
            have following := ih covered.length
            rw [List.drop_left] at following
            exact .first (.head rfl) following
          · rename_i other
            rw [List.isPrefixOf_iff_prefix] at other
            exact (ih 0).cons other

theorem Replaced.unique {other : List Char} (replaced : Replaced part replacement text result)
    (also : Replaced part replacement text other) : result = other := by
  induction replaced generalizing other with
  | plain absent =>
      cases also with
      | plain _ => rfl
      | first leftmost _ => exact absurd ⟨_, _, leftmost.parts.symm⟩ absent
  | @first text before rest result leftmost _ ih =>
      cases also with
      | plain absent => exact absurd ⟨before, rest, leftmost.parts.symm⟩ absent
      | first here following =>
          obtain ⟨rfl, _, rfl⟩ := leftmost.unique here fun _ _ left right _ => left.trans right.symm
          rw [ih following]

theorem replaced_iff (nonempty : part ≠ []) :
    Replaced part replacement text result ↔ result = replaceAll part replacement text := by
  constructor
  · intro replaced
    exact replaced.unique (replaced_replaceFrom nonempty 0 text)
  · rintro rfl
    exact replaced_replaceFrom nonempty 0 text

end TiledStream.Text
