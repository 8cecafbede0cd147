import Mathlib.Data.Set.Operations
import Mathlib.Order.Bounds.Defs
import TiledStream.Proofs.Selection.Torus

/-! Distances on a ring as lengths of shortest ways. Between two positions there is one way for each
count of turns around the ring, and the distance is the length of the shortest of them all. -/

namespace TiledStream

/-- Length of the way between two positions that turns around the ring so many times, against its
direction if the count is negative. -/
def wayLength (left right length : Nat) (turns : Int) : Nat :=
  ((left : Int) - right + turns * length).natAbs

section Ring

variable {left middle right length : Nat}

/-- Two ways that meet make up a way, which turns as often as both of them. -/
theorem wayLength_add_le (left middle right length : Nat) (first second : Int) :
    wayLength left right length (first + second) ≤
      wayLength left middle length first + wayLength middle right length second := by
  have joined : (left : Int) - right + (first + second) * length =
      (left - middle + first * length) + (middle - right + second * length) := by
    rw [Int.add_mul]
    omega
  unfold wayLength
  rw [joined]
  exact Int.natAbs_add_le _ _

theorem exists_wayLength_eq (leftInside : left < length) (rightInside : right < length) :
    ∃ turns, wayLength left right length turns = ringDistance left right length := by
  simp only [wayLength, ringDistance]
  rcases Nat.le_total (left - right + (right - left)) (length - (left - right + (right - left)))
    with direct | across
  · exact ⟨0, by omega⟩
  · -- the way over the seam turns with the ring towards a position ahead, else against it
    rcases Nat.le_total left right with ahead | behind
    · exact ⟨1, by omega⟩
    · exact ⟨-1, by omega⟩

/-- A way that turns at all goes around the whole ring, less at most the direct way. -/
theorem ringDistance_le_wayLength (left right length : Nat) (turns : Int) :
    ringDistance left right length ≤ wayLength left right length turns := by
  simp only [wayLength, ringDistance]
  by_cases still : turns = 0
  · subst still
    omega
  · have around : length ≤ (turns * length).natAbs := by
      rw [Int.natAbs_mul, Int.natAbs_natCast]
      exact Nat.le_mul_of_pos_left length (Int.natAbs_pos.mpr still)
    omega

theorem ringDistance_eq_zero_iff (leftInside : left < length) (rightInside : right < length) :
    ringDistance left right length = 0 ↔ left = right := by
  simp only [ringDistance]
  omega

theorem ringDistance_le_half (left right length : Nat) :
    ringDistance left right length ≤ length / 2 := by
  simp only [ringDistance]
  omega

theorem ringDistance_triangle (leftInside : left < length) (middleInside : middle < length)
    (rightInside : right < length) :
    ringDistance left right length ≤
      ringDistance left middle length + ringDistance middle right length := by
  obtain ⟨first, shortFirst⟩ := exists_wayLength_eq leftInside middleInside
  obtain ⟨second, shortSecond⟩ := exists_wayLength_eq middleInside rightInside
  calc ringDistance left right length
      ≤ wayLength left right length (first + second) :=
        ringDistance_le_wayLength left right length (first + second)
    _ ≤ wayLength left middle length first + wayLength middle right length second :=
        wayLength_add_le left middle right length first second
    _ = ringDistance left middle length + ringDistance middle right length := by
        rw [shortFirst, shortSecond]

/-- The distance on a ring is the length of the shortest of all ways around it. It is a metric, and
no two positions are further apart than half of the ring. -/
theorem ringDistance_metric (leftInside : left < length) (middleInside : middle < length)
    (rightInside : right < length) :
    IsLeast (Set.range (wayLength left right length)) (ringDistance left right length) ∧
    (ringDistance left right length = 0 ↔ left = right) ∧
    ringDistance left right length = ringDistance right left length ∧
    ringDistance left right length ≤
      ringDistance left middle length + ringDistance middle right length ∧
    ringDistance left right length ≤ length / 2 := by
  refine ⟨⟨?_, ?_⟩, ?_, ?_, ?_, ?_⟩
  · exact exists_wayLength_eq leftInside rightInside
  · rintro way ⟨turns, rfl⟩
    exact ringDistance_le_wayLength left right length turns
  · exact ringDistance_eq_zero_iff leftInside rightInside
  · exact ringDistance_comm left right length
  · exact ringDistance_triangle leftInside middleInside rightInside
  · exact ringDistance_le_half left right length

theorem ringDistance_metric_of_five :
    4 < 5 ∧ 0 < 5 ∧ 1 < 5 ∧ IsLeast (Set.range (wayLength 4 1 5)) 2 ∧
      ringDistance 4 1 5 ≤ ringDistance 4 0 5 + ringDistance 0 1 5 ∧
      ringDistance 4 0 5 + ringDistance 0 1 5 = 2 ∧ ringDistance 4 1 5 ≤ 5 / 2 := by
  have four : 4 < 5 := by decide
  have nought : 0 < 5 := by decide
  have one : 1 < 5 := by decide
  obtain ⟨least, _, _, triangle, half⟩ := ringDistance_metric four nought one
  exact ⟨four, nought, one, least, triangle, by decide, half⟩

end Ring

end TiledStream
