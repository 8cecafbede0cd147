import Mathlib.Algebra.Order.Field.Basic
import Mathlib.Algebra.Order.Field.Rat
import Mathlib.Tactic.FieldSimp
import Mathlib.Tactic.Linarith
import Mathlib.Tactic.NormNum
import Mathlib.Tactic.Ring
import TiledStream.Number.Decimal
import TiledStream.Proofs.Number.Binary64

/-! How far rounding moves a number from its exact value, and its text with a count of places. -/

namespace TiledStream.Number.Binary64

def value? (number : Binary64) : Option ℚ :=
  (multiple? number).map fun multiple : ℕ => (multiple : ℚ) / one

variable {number : Binary64} {value : ℚ} {power : ℕ}

theorem one_pos : (0 : ℚ) < one := by exact_mod_cast unit_pos 0

theorem unit_eq (range : power ≤ 53) : (unit ((power : Int) - 53) : ℚ) = 2 ^ power / 2 ^ 53 * one := by
  have places : one = 2 ^ (53 - power) * unit (-((53 - power : ℕ) : Int)) :=
    one_eq (by omega)
  have same : -((53 - power : ℕ) : Int) = (power : Int) - 53 := by omega
  have powers : (2 : ℚ) ^ power * 2 ^ (53 - power) = 2 ^ 53 := by
    rw [← pow_add]
    congr 1
    omega
  rw [places, same]
  push_cast
  rw [← mul_assoc, div_mul_eq_mul_div, powers, div_self (by norm_num), one_mul]

theorem multiple_of_value? (exact : number.value? = some value) :
    ∃ multiple : ℕ, multiple? number = some multiple ∧ (multiple : ℚ) = value * one := by
  obtain ⟨multiple, found, rfl⟩ := Option.map_eq_some_iff.mp exact
  exact ⟨multiple, found, (div_mul_cancel₀ _ one_pos.ne').symm⟩

theorem value?_of_multiple {multiple : ℕ} (found : multiple? number = some multiple) :
    number.value? = some ((multiple : ℚ) / one) := by
  rw [value?, found]
  rfl

/-- A ratio below a power of two is moved by half a last place at most. -/
theorem ofRatio_close {numerator denominator : ℕ} (positive : 0 < denominator)
    (small : (numerator / denominator : ℚ) < 2 ^ power) (range : power ≤ 53) :
    ∃ value, (ofRatio numerator denominator).value? = some value ∧
      |value - numerator / denominator| ≤ 2 ^ power / 2 ^ 54 := by
  have positiveRat : (0 : ℚ) < denominator := by exact_mod_cast positive
  have smallNat : numerator < 2 ^ power * denominator := by
    exact_mod_cast (div_lt_iff₀ positiveRat).mp small
  obtain ⟨multiple, read, above, below⟩ := ofRatio_near positive smallNat (by omega)
  have aboveRat : (2 : ℚ) * (multiple * denominator) ≤
      2 * (numerator * one) + denominator * unit ((power : Int) - 53) := by exact_mod_cast above
  have belowRat : (2 : ℚ) * (numerator * one) ≤
      2 * (multiple * denominator) + denominator * unit ((power : Int) - 53) := by
    exact_mod_cast below
  rw [unit_eq range] at aboveRat belowRat
  refine ⟨_, value?_of_multiple read, ?_⟩
  have scale : (0 : ℚ) < denominator * one := mul_pos positiveRat one_pos
  have difference : (multiple / one - numerator / denominator : ℚ) =
      (multiple * denominator - numerator * one) / (denominator * one) := by
    rw [div_sub_div _ _ one_pos.ne' positiveRat.ne', mul_comm (one : ℚ) denominator,
      mul_comm (one : ℚ) numerator]
  rw [difference, abs_div, abs_of_pos scale, div_le_iff₀ scale, abs_le]
  constructor
  · linarith
  · linarith

theorem times_close {factor : ℕ} (exact : number.value? = some value)
    (small : value * factor < 2 ^ power) (range : power ≤ 53) :
    ∃ product, (number.times factor).value? = some product ∧
      |product - value * factor| ≤ 2 ^ power / 2 ^ 54 := by
  obtain ⟨multiple, found, scaled⟩ := multiple_of_value? exact
  have smallNat : multiple * factor < 2 ^ power * one := by
    have := mul_lt_mul_of_pos_right small one_pos
    rw [mul_right_comm, ← scaled] at this
    exact_mod_cast this
  obtain ⟨product, multiplied, above, below⟩ := times_near found smallNat (by omega)
  have aboveRat : (2 : ℚ) * product ≤ 2 * (multiple * factor) + unit ((power : Int) - 53) := by
    exact_mod_cast above
  have belowRat : (2 : ℚ) * (multiple * factor) ≤ 2 * product + unit ((power : Int) - 53) := by
    exact_mod_cast below
  rw [unit_eq range, scaled] at aboveRat belowRat
  refine ⟨_, value?_of_multiple multiplied, ?_⟩
  have difference : (product / one - value * factor : ℚ) =
      (product - value * factor * one) / one := by
    rw [sub_div, mul_div_cancel_right₀ _ one_pos.ne']
  rw [difference, abs_div, abs_of_pos one_pos, div_le_iff₀ one_pos, abs_le]
  constructor
  · linarith
  · linarith

theorem roundUpTo_close {limit : ℕ} (exact : number.value? = some value) (bounded : value < limit) :
    |(number.roundUpTo limit : ℚ) - value| ≤ 1 / 2 := by
  obtain ⟨multiple, found, scaled⟩ := multiple_of_value? exact
  have positive : 0 < one := unit_pos 0
  have boundedNat : multiple < limit * one := by
    have := mul_lt_mul_of_pos_right bounded one_pos
    rw [← scaled] at this
    exact_mod_cast this
  have parts := Nat.div_add_mod (2 * multiple + one) (2 * one)
  have rest := Nat.mod_lt (2 * multiple + one) (show 0 < 2 * one by omega)
  generalize (2 * multiple + one) / (2 * one) = whole at parts
  have double : 2 * one * whole = 2 * (whole * one) := by rw [Nat.mul_assoc, Nat.mul_comm one]
  rw [double] at parts
  have inside : whole ≤ limit := by
    apply Nat.le_of_lt_succ
    apply Nat.lt_of_mul_lt_mul_right (a := one)
    rw [Nat.succ_mul]
    omega
  rw [roundUpTo_of_near found inside (by omega) (by omega)]
  have low : (2 : ℚ) * (whole * one) ≤ 2 * (value * one) + one := by
    rw [← scaled]
    exact_mod_cast (show 2 * (whole * one) ≤ 2 * multiple + one by omega)
  have high : (2 : ℚ) * (value * one) ≤ 2 * (whole * one) + one := by
    rw [← scaled]
    exact_mod_cast (show 2 * multiple ≤ 2 * (whole * one) + one by omega)
  rw [abs_le]
  constructor
  · nlinarith [one_pos]
  · nlinarith [one_pos]

theorem divideToEven_close (numerator : ℕ) {denominator : ℕ} (positive : 0 < denominator) :
    |(divideToEven numerator denominator : ℚ) - numerator / denominator| ≤ 1 / 2 := by
  have positiveRat : (0 : ℚ) < denominator := by exact_mod_cast positive
  obtain ⟨above, below⟩ := divideToEven_near numerator positive
  generalize divideToEven numerator denominator = quotient at *
  have aboveRat : (2 : ℚ) * (quotient * denominator) ≤ 2 * numerator + denominator := by
    exact_mod_cast above
  have belowRat : (2 : ℚ) * numerator ≤ 2 * (quotient * denominator) + denominator := by
    exact_mod_cast below
  have difference : (quotient - numerator / denominator : ℚ) =
      (quotient * denominator - numerator) / denominator := by
    rw [sub_div, mul_div_cancel_right₀ _ positiveRat.ne']
  rw [difference, abs_div, abs_of_pos positiveRat, div_le_iff₀ positiveRat, abs_le]
  constructor
  · linarith
  · linarith

theorem scaleRatio_value (numerator : ℕ) {exponent : Int} (least : leastExponent ≤ exponent) :
    ((scaleRatio numerator 1 (-exponent)).1 / (scaleRatio numerator 1 (-exponent)).2 : ℚ) =
      numerator * (unit exponent / one) := by
  have place : (0 : ℚ) < unit exponent := by exact_mod_cast unit_pos exponent
  unfold scaleRatio
  split
  · have whole := one_of_nonpositive least (by omega)
    rw [whole]
    push_cast
    field_simp
  · have whole := unit_of_nonnegative (show 0 ≤ exponent by omega)
    rw [Int.neg_neg, whole]
    push_cast
    field_simp [one_pos.ne']

theorem fixed_close (places : ℕ) (exact : number.value? = some value) :
    ∃ count : ℕ, |(count : ℚ) - value * 10 ^ places| ≤ 1 / 2 ∧
      number.fixed places = Text.digitsOf (count / 10 ^ places) ++
        '.' :: Text.padded places (count % 10 ^ places) := by
  obtain ⟨multiple, found, scaled⟩ := multiple_of_value? exact
  obtain ⟨significand, exponent, rfl, least, rfl⟩ := multiple?_eq found
  refine ⟨_, ?_, rfl⟩
  have positive := scaleRatio_pos (significand * 10 ^ places) (-exponent) Nat.one_pos
  have close := divideToEven_close (scaleRatio (significand * 10 ^ places) 1 (-exponent)).1 positive
  have exactly : ((significand * 10 ^ places : ℕ) : ℚ) * (unit exponent / one) =
      value * 10 ^ places := by
    rw [eq_div_of_mul_eq one_pos.ne' scaled.symm]
    push_cast
    ring
  rw [scaleRatio_value _ least, exactly] at close
  exact close

end TiledStream.Number.Binary64
