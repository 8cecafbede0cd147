import Mathlib.Algebra.Order.Field.Basic
import Mathlib.Algebra.Order.Round
import Mathlib.Data.Rat.Floor
import Mathlib.Tactic.Linarith
import TiledStream.Proofs.Selection.Torus

/-! How quality falls off around the tile in view, when predictions are made in exact numbers. -/

namespace TiledStream

instance : Quality ℚ where
  ofNat count := count
  sub left right := left - right
  mul left right := left * right
  div left right := left / right
  atLeastZero value := max value 0
  toUnit value := max 0 (min value 1)
  round value := min (round value).toNat (2 ^ 64 - 1)

section Steps

variable {less more : ℚ} {count : ℕ}

theorem rounded_le_rounded (le : less ≤ more) : Quality.round less ≤ Quality.round more := by
  have shifted : less + 1 / 2 ≤ more + 1 / 2 := by linarith
  have whole : round less ≤ round more := by
    rw [round_eq, round_eq]
    exact Int.floor_le_floor shifted
  exact min_le_min_right _ (Int.toNat_le_toNat whole)

theorem rounded_natCast (word : count < 2 ^ 64) : Quality.round (count : ℚ) = count := by
  have exact : (round (count : ℚ)).toNat = count := by
    rw [round_natCast, Int.toNat_natCast]
  change min (round (count : ℚ)).toNat _ = count
  rw [exact]
  omega

theorem toUnit_le_toUnit (le : less ≤ more) : Quality.toUnit less ≤ Quality.toUnit more :=
  max_le_max_left 0 (min_le_min_right 1 le)

theorem clampIndex_le_clampIndex {low high : ℕ} (le : low ≤ high) (count : ℕ) :
    clampIndex low count ≤ clampIndex high count :=
  min_le_min_right (count - 1) le

theorem predictedIndex_lt (share : ℚ) (some : 1 ≤ count) : predictedIndex share count < count := by
  have last : predictedIndex share count ≤ count - 1 := min_le_right _ _
  omega

theorem predictedIndex_le_predictedIndex (le : less ≤ more) (count : ℕ) :
    predictedIndex less count ≤ predictedIndex more count := by
  apply clampIndex_le_clampIndex
  apply rounded_le_rounded
  exact mul_le_mul_of_nonneg_left (toUnit_le_toUnit le) (Nat.cast_nonneg count)

theorem predictedIndex_one (word : count < 2 ^ 64) : predictedIndex (1 : ℚ) count = count - 1 := by
  have full : Quality.mul (Quality.ofNat count) (Quality.toUnit (1 : ℚ)) = (count : ℚ) := by
    change (count : ℚ) * max 0 (min 1 1) = count
    rw [min_self, max_eq_right zero_le_one, mul_one]
  rw [predictedIndex, full, rounded_natCast word, clampIndex]
  omega

end Steps

namespace Viewport

variable {viewport : Viewport ℚ} {near far : Coordinate}

/-- Along neither axis is the first tile further from the tile in view than the second. -/
def NoFarther (viewport : Viewport ℚ) (near far : Coordinate) : Prop :=
  ringDistance near.x viewport.view.x viewport.grid.columns ≤
      ringDistance far.x viewport.view.x viewport.grid.columns ∧
    ringDistance near.y viewport.view.y viewport.grid.rows ≤
      ringDistance far.y viewport.view.y viewport.grid.rows

theorem ringShare_le_ringShare {short long view length : ℕ}
    (le : ringDistance short view length ≤ ringDistance long view length) :
    (ringShare short view length : ℚ) ≤ ringShare long view length :=
  div_le_div_of_nonneg_right (Nat.cast_le.mpr le) (Nat.cast_nonneg length)

theorem predict_le_predict (columns : 1 ≤ viewport.grid.columns) (rows : 1 ≤ viewport.grid.rows)
    (loss : 0 ≤ viewport.factor) (closer : viewport.NoFarther near far) :
    viewport.predict far ≤ viewport.predict near := by
  have across := mul_le_mul_of_nonneg_left (ringShare_le_ringShare closer.1) loss
  have down := mul_le_mul_of_nonneg_left (ringShare_le_ringShare closer.2) loss
  unfold predict
  rw [Nat.max_eq_left columns, Nat.max_eq_left rows]
  apply max_le_max_right 0
  exact sub_le_sub (sub_le_sub_left across _) down

theorem ringDistance_self (position length : ℕ) : ringDistance position position length = 0 := by
  simp [ringDistance]

theorem predict_view (viewport : Viewport ℚ) : viewport.predict viewport.view = 1 := by
  have none (position length : ℕ) : (ringShare position position length : ℚ) = 0 := by
    rw [ringShare, ringDistance_self]
    exact zero_div (length : ℚ)
  unfold predict
  rw [none, none]
  change max ((1 : ℕ) - viewport.factor * 0 - viewport.factor * 0) 0 = (1 : ℚ)
  rw [Nat.cast_one, mul_zero, sub_zero, sub_zero, max_eq_left zero_le_one]

/-- In exact numbers the quality never rises with the distance from the tile in view, which has the
highest. -/
theorem quality_falls_with_distance (viewport : Viewport ℚ) (columns : 1 ≤ viewport.grid.columns)
    (rows : 1 ≤ viewport.grid.rows) (loss : 0 ≤ viewport.factor) {count : ℕ} (some : 1 ≤ count)
    (word : count < 2 ^ 64) :
    (∀ tile earlier, ∃ index, viewport.selector tile earlier count = .ok index ∧ index < count) ∧
    (∀ near far, viewport.NoFarther near far → ∀ earlier later low high,
      viewport.selector near earlier count = .ok high →
      viewport.selector far later count = .ok low → low ≤ high) ∧
    ∀ earlier, viewport.selector viewport.view earlier count = .ok (count - 1) := by
  refine ⟨?_, ?_, ?_⟩
  · intro tile earlier
    exact ⟨_, rfl, predictedIndex_lt _ some⟩
  · intro near far closer earlier later low high chosen other
    obtain rfl := Except.ok.inj chosen
    obtain rfl := Except.ok.inj other
    exact predictedIndex_le_predictedIndex (predict_le_predict columns rows loss closer) count
  · intro earlier
    change Except.ok (predictedIndex (viewport.predict viewport.view) count) = _
    rw [predict_view, predictedIndex_one word]

theorem quality_falls_by_half :
    let viewport : Viewport ℚ := looked { columns := 4, rows := 2 } (1 / 2) [{ x := 5, y := 1 }]
    viewport.view = { x := 1, y := 1 } ∧
      viewport.NoFarther { x := 1, y := 0 } { x := 3, y := 0 } ∧
      viewport.selector { x := 3, y := 0 } 0 5 = .ok 3 ∧
      (∀ high, viewport.selector { x := 1, y := 0 } 0 5 = .ok high → 3 ≤ high) ∧
      viewport.selector { x := 1, y := 1 } 0 5 = .ok 4 := by
  intro viewport
  have several : 1 ≤ 5 := by decide
  obtain ⟨_, falls, best⟩ := quality_falls_with_distance viewport (by decide) (by decide)
    (by decide +kernel) several (by decide)
  have view : viewport.view = { x := 1, y := 1 } := by decide
  have closer : viewport.NoFarther { x := 1, y := 0 } { x := 3, y := 0 } := by
    rw [NoFarther, view]
    decide
  have third : viewport.selector { x := 3, y := 0 } 0 5 = .ok 3 := by decide +kernel
  refine ⟨view, closer, third, ?_, ?_⟩
  · intro high chosen
    exact falls _ _ closer 0 0 3 high chosen third
  · rw [← view]
    exact best 0

end Viewport

end TiledStream
