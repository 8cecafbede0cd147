import Mathlib.Algebra.Order.Field.Basic
import Mathlib.Algebra.Order.Field.Rat
import Mathlib.Tactic.FieldSimp
import Mathlib.Tactic.Linarith
import TiledStream.Proofs.Duration.Form
import TiledStream.Proofs.Number.ExactValue

/-! How near the milliseconds of a text come to its seconds. The seconds are rounded when they are
read and again when they are multiplied. Below 2 ^ 42 seconds both together move them by less than
half a millisecond, so whole milliseconds are never lost there. -/

namespace TiledStream.Duration

open Number.Binary64 (ofRatio_close times_close roundUpTo_close)

/-- By how many milliseconds two roundings may move seconds below a power of two. -/
def slack (power : ℕ) : ℚ := 253 * 2 ^ power / 2 ^ 51

variable {power : ℕ}

theorem slack_lt_half (range : power ≤ 42) : slack power < 1 / 2 := by
  have bound : (2 : ℚ) ^ power ≤ 2 ^ 42 := pow_le_pow_right₀ (by norm_num) range
  rw [slack]
  norm_num at bound ⊢
  linarith

theorem eq_of_close {count other : ℕ} (close : |(count : ℚ) - other| < 1) : count = other := by
  obtain ⟨below, above⟩ := abs_lt.mp close
  have least : (other : ℚ) < count + 1 := by linarith
  have greatest : (count : ℚ) < other + 1 := by linarith
  norm_cast at least greatest
  omega

section Ratios

variable {numerator denominator : ℕ}

theorem millisecondsOf_close (positive : 0 < denominator)
    (small : (numerator / denominator : ℚ) < 2 ^ power) (range : power ≤ 42) :
    |(millisecondsOf (.ofRatio numerator denominator) : ℚ) - 1000 * (numerator / denominator)| ≤
      1 / 2 + slack power := by
  have unitBound : (0 : ℚ) < 2 ^ power := by positivity
  have greatest : (2 : ℚ) ^ power ≤ 2 ^ 42 := pow_le_pow_right₀ (by norm_num) range
  obtain ⟨seconds, read, readClose⟩ := ofRatio_close positive small (by omega)
  obtain ⟨readBelow, readAbove⟩ := abs_le.mp readClose
  generalize (numerator / denominator : ℚ) = exact at *
  have scaled : (2 : ℚ) ^ (power + 10) = 1024 * 2 ^ power := by ring
  have fits : seconds * (1000 : ℕ) < 2 ^ (power + 10) := by
    rw [scaled]
    push_cast
    linarith
  obtain ⟨product, multiplied, productClose⟩ := times_close read fits (by omega)
  rw [scaled] at productClose fits
  push_cast at productClose fits
  obtain ⟨productBelow, productAbove⟩ := abs_le.mp productClose
  have within : product < (2 ^ 64 - 1 : ℕ) := by
    norm_num at greatest ⊢
    linarith
  obtain ⟨roundedBelow, roundedAbove⟩ := abs_le.mp (roundUpTo_close multiplied within)
  rw [millisecondsOf, slack, abs_le]
  constructor
  · linarith
  · linarith

theorem millisecondsOf_whole {count : ℕ} (small : count < 2 ^ 42 * 1000) :
    millisecondsOf (.ofRatio count 1000) = count := by
  have smallRat : (count / (1000 : ℕ) : ℚ) < 2 ^ 42 := by
    rw [div_lt_iff₀ (by norm_num)]
    exact_mod_cast small
  have close := millisecondsOf_close (by decide) smallRat (Nat.le_refl 42)
  have half := slack_lt_half (Nat.le_refl 42)
  have same : 1000 * (count / (1000 : ℕ) : ℚ) = count := by
    push_cast
    ring
  rw [same] at close
  exact eq_of_close (by linarith)

end Ratios

namespace Fields

variable {fields : Fields}

def secondsValue (fields : Fields) : ℚ :=
  Text.numberOf (fields.whole ++ fields.fraction) / 10 ^ fields.fraction.length

theorem milliseconds_close (below : fields.secondsValue < 2 ^ power) (range : power ≤ 42) :
    |(fields.milliseconds : ℚ) - 1000 * fields.secondsValue| ≤ 1 / 2 + slack power := by
  have value : fields.secondsValue = (Text.numberOf (fields.whole ++ fields.fraction) : ℚ) /
      (10 ^ fields.fraction.length : ℕ) := by
    rw [secondsValue]
    push_cast
    rfl
  rw [value] at below ⊢
  exact millisecondsOf_close (Nat.pow_pos (by decide)) below range

/-- Away from the middle between two milliseconds the nearer one is taken. -/
theorem milliseconds_nearest (below : fields.secondsValue < 2 ^ power) (range : power ≤ 42)
    {count : ℕ} (near : |(count : ℚ) - 1000 * fields.secondsValue| < 1 / 2 - slack power) :
    fields.milliseconds = count := by
  have close := milliseconds_close below range
  have apart := abs_sub_le (fields.milliseconds : ℚ) (1000 * fields.secondsValue) count
  rw [abs_sub_comm (1000 * fields.secondsValue)] at apart
  exact eq_of_close (by linarith)

/-- Up to three places after the point are whole milliseconds, and none is lost. -/
theorem milliseconds_exact (below : fields.secondsValue < 2 ^ 42)
    (places : fields.fraction.length ≤ 3) :
    (fields.milliseconds : ℚ) = 1000 * fields.secondsValue := by
  have whole : ((Text.numberOf (fields.whole ++ fields.fraction) * 10 ^ (3 - fields.fraction.length) :
      ℕ) : ℚ) = 1000 * fields.secondsValue := by
    have powers : (10 : ℚ) ^ (3 - fields.fraction.length) * 10 ^ fields.fraction.length = 1000 := by
      rw [← pow_add, Nat.sub_add_cancel places]
      norm_num
    rw [secondsValue, ← powers]
    push_cast
    field_simp
  rw [← whole]
  congr 1
  apply milliseconds_nearest below (Nat.le_refl 42)
  rw [whole, sub_self, abs_zero]
  exact sub_pos.mpr (slack_lt_half (Nat.le_refl 42))

end Fields

/-- Right above 2 ^ 42 seconds a whole millisecond is lost. -/
example : millisecondsOf (.ofRatio 4398046511104021 1000) = 4398046511104022 := by decide +kernel

end TiledStream.Duration
