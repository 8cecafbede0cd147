import TiledStream.Number.Binary64

/-! How far rounding moves a number, counted in least magnitudes. -/

namespace TiledStream.Number

@[irreducible] def unit (exponent : Int) : Nat := 2 ^ (exponent - Binary64.leastExponent).toNat

def one : Nat := unit 0

def multiple? : Binary64 → Option Nat
  | .finite significand exponent =>
    if Binary64.leastExponent ≤ exponent then some (significand * unit exponent) else none
  | .infinite => none

theorem unit_pos (exponent : Int) : 0 < unit exponent := by
  rw [unit]
  exact Nat.pow_pos (by decide)

theorem unit_add {exponent : Int} (power : Nat) (least : Binary64.leastExponent ≤ exponent) :
    unit (exponent + power) = 2 ^ power * unit exponent := by
  have sum : (exponent + power - Binary64.leastExponent).toNat =
      power + (exponent - Binary64.leastExponent).toNat := by omega
  rw [unit, unit, sum, Nat.pow_add]

theorem one_of_nonpositive {exponent : Int} (least : Binary64.leastExponent ≤ exponent)
    (nonpositive : exponent ≤ 0) : one = 2 ^ (-exponent).toNat * unit exponent := by
  have sum : exponent + (-exponent).toNat = 0 := by omega
  rw [← unit_add _ least, sum, one]

theorem one_eq {power : Nat} (least : power ≤ 1074) : one = 2 ^ power * unit (-power) := by
  have within : Binary64.leastExponent ≤ -(power : Int) := by
    simp only [Binary64.leastExponent]
    omega
  have sum : -(power : Int) + power = 0 := by omega
  rw [← unit_add power within, sum, one]

theorem unit_of_nonnegative {exponent : Int} (nonnegative : 0 ≤ exponent) :
    unit exponent = 2 ^ exponent.toNat * one := by
  have least : Binary64.leastExponent ≤ 0 := by decide
  have sum : (0 : Int) + exponent.toNat = exponent := by omega
  rw [one, ← unit_add _ least, sum]

theorem unit_le_unit {lower upper : Int} (order : lower ≤ upper) : unit lower ≤ unit upper := by
  rw [unit, unit]
  exact Nat.pow_le_pow_right (by decide) (by omega)

theorem divideToEven_near (numerator : Nat) {denominator : Nat} (positive : 0 < denominator) :
    2 * (divideToEven numerator denominator * denominator) ≤ 2 * numerator + denominator ∧
      2 * numerator ≤ 2 * (divideToEven numerator denominator * denominator) + denominator := by
  have parts := Nat.div_add_mod numerator denominator
  have small := Nat.mod_lt numerator positive
  rw [Nat.mul_comm] at parts
  unfold divideToEven
  dsimp only
  split
  · omega
  · split
    · rw [Nat.add_mul]
      omega
    · split
      · omega
      · rw [Nat.add_mul]
        omega

theorem scaleRatio_cross (numerator denominator : Nat) {exponent : Int}
    (least : Binary64.leastExponent ≤ exponent) :
    (scaleRatio numerator denominator exponent).1 * (denominator * unit exponent) =
      (scaleRatio numerator denominator exponent).2 * (numerator * one) := by
  unfold scaleRatio
  split
  · rename_i nonnegative
    rw [unit_of_nonnegative nonnegative]
    simp only [Nat.mul_assoc, Nat.mul_left_comm, Nat.mul_comm]
  · rename_i negative
    rw [one_of_nonpositive least (by omega)]
    simp only [Nat.mul_assoc, Nat.mul_left_comm]

theorem scaleRatio_pos (numerator : Nat) {denominator : Nat} (exponent : Int)
    (positive : 0 < denominator) : 0 < (scaleRatio numerator denominator exponent).2 := by
  unfold scaleRatio
  split
  · exact Nat.mul_pos positive (Nat.pow_pos (by decide))
  · exact positive

namespace Binary64

theorem exponentOf_least (numerator denominator : Nat) :
    leastExponent ≤ exponentOf numerator denominator := by
  unfold exponentOf
  dsimp only
  split <;> omega

theorem log2_le {numerator denominator power : Nat}
    (small : numerator < 2 ^ power * denominator) :
    numerator.log2 ≤ power + denominator.log2 := by
  rcases Nat.eq_zero_or_pos numerator with rfl | nonzero
  · simp
  · have below := Nat.log2_self_le (Nat.pos_iff_ne_zero.mp nonzero)
    have above : denominator < 2 ^ (denominator.log2 + 1) := Nat.lt_log2_self
    have between : 2 ^ numerator.log2 < 2 ^ (power + (denominator.log2 + 1)) := by
      rw [Nat.pow_add]
      exact Nat.lt_of_le_of_lt below (Nat.lt_trans small
        (Nat.mul_lt_mul_of_pos_left above (Nat.pow_pos (by decide))))
    have exponents := (Nat.pow_lt_pow_iff_right (by decide)).mp between
    omega

theorem scaled_small {numerator denominator power : Nat} (positive : 0 < denominator)
    (small : numerator < 2 ^ power * denominator) :
    (scaleRatio numerator denominator (power - 52)).1 /
      (scaleRatio numerator denominator (power - 52)).2 < 2 ^ 52 := by
  have least : leastExponent ≤ (power : Int) - 52 := by
    simp only [leastExponent]
    omega
  have cross := scaleRatio_cross numerator denominator least
  have some := scaleRatio_pos numerator ((power : Int) - 52) positive
  generalize scaleRatio numerator denominator (power - 52) = scaled at cross some
  have places : 2 ^ power * one = 2 ^ 52 * unit (power - 52) := by
    have whole := unit_of_nonnegative (show (0 : Int) ≤ power by omega)
    have shifted := unit_add 52 least
    rw [Int.toNat_natCast] at whole
    rw [← whole, ← shifted]
    exact congrArg unit (by omega)
  have bound : scaled.1 * (denominator * unit (power - 52)) <
      (2 ^ 52 * scaled.2) * (denominator * unit (power - 52)) := by
    calc scaled.1 * (denominator * unit (power - 52))
        = scaled.2 * (numerator * one) := cross
      _ < scaled.2 * (2 ^ power * denominator * one) :=
          Nat.mul_lt_mul_of_pos_left
            (Nat.mul_lt_mul_of_pos_right small (unit_pos 0)) some
      _ = scaled.2 * (denominator * (2 ^ power * one)) := by
          simp only [Nat.mul_assoc, Nat.mul_left_comm]
      _ = (2 ^ 52 * scaled.2) * (denominator * unit (power - 52)) := by
          rw [places]
          simp only [Nat.mul_assoc, Nat.mul_left_comm]
  exact (Nat.div_lt_iff_lt_mul some).mpr (Nat.lt_of_mul_lt_mul_right bound)

theorem exponentOf_le {numerator denominator power : Nat} (positive : 0 < denominator)
    (small : numerator < 2 ^ power * denominator) :
    exponentOf numerator denominator ≤ power - 53 := by
  have lead := log2_le small
  have scaled := scaled_small positive small
  have least : leastExponent ≤ (power : Int) - 53 := by
    simp only [leastExponent]
    omega
  unfold exponentOf
  dsimp only
  by_cases full : max leastExponent ((numerator.log2 : Int) - denominator.log2 - 52) = power - 52
  · rw [full, if_pos scaled]
    omega
  · split <;> omega

theorem near_of_scaled {scaled significand numerator denominator place whole : Nat}
    {scale : Nat} (positive : 0 < scale)
    (cross : scaled * (denominator * place) = scale * (numerator * whole))
    (near : 2 * (significand * scale) ≤ 2 * scaled + scale ∧
      2 * scaled ≤ 2 * (significand * scale) + scale) :
    2 * (significand * place * denominator) ≤ 2 * (numerator * whole) + denominator * place ∧
      2 * (numerator * whole) ≤ 2 * (significand * place * denominator) + denominator * place := by
  have above := Nat.mul_le_mul_right (denominator * place) near.1
  have below := Nat.mul_le_mul_right (denominator * place) near.2
  refine ⟨Nat.le_of_mul_le_mul_left ?_ positive, Nat.le_of_mul_le_mul_left ?_ positive⟩
  · grind
  · grind

/-- A ratio below a power of two is moved by half a last place at most. -/
theorem ofRatio_near {numerator denominator power : Nat} (positive : 0 < denominator)
    (small : numerator < 2 ^ power * denominator) (finite : power ≤ 1023) :
    ∃ value, multiple? (ofRatio numerator denominator) = some value ∧
      2 * (value * denominator) ≤ 2 * (numerator * one) + denominator * unit (power - 53) ∧
      2 * (numerator * one) ≤ 2 * (value * denominator) + denominator * unit (power - 53) := by
  have least := exponentOf_least numerator denominator
  have greatest := exponentOf_le positive small
  have cross := scaleRatio_cross numerator denominator least
  have some := scaleRatio_pos numerator (exponentOf numerator denominator) positive
  have lastPlace := unit_le_unit greatest
  unfold ofRatio
  dsimp only
  generalize exponentOf numerator denominator = exponent at *
  generalize scaleRatio numerator denominator exponent = scaled at *
  have rounded := divideToEven_near scaled.1 some
  generalize divideToEven scaled.1 scaled.2 = significand at *
  have below : exponent < greatestExponent := by
    simp only [greatestExponent]
    omega
  have room : denominator * unit exponent ≤ denominator * unit (power - 53) :=
    Nat.mul_le_mul_left denominator lastPlace
  have near := near_of_scaled some cross rounded
  refine ⟨significand * unit exponent, ?_, by omega, by omega⟩
  split
  · -- A significand rounded up to 2 ^ 53 is written as 2 ^ 52 of the next place.
    rename_i carried
    have doubled : unit (exponent + 1) = 2 ^ 1 * unit exponent := unit_add 1 least
    rw [if_neg (Int.not_le.mpr below), multiple?, if_pos (by omega), carried, doubled,
      ← Nat.mul_assoc, ← Nat.pow_add]
  · rw [if_neg (Int.not_lt.mpr (Int.le_of_lt below)), multiple?, if_pos least]

theorem multiple?_eq {number : Binary64} {value : Nat} (multiple : multiple? number = some value) :
    ∃ significand exponent, number = .finite significand exponent ∧ leastExponent ≤ exponent ∧
      value = significand * unit exponent := by
  cases number with
  | finite significand exponent =>
      by_cases least : leastExponent ≤ exponent
      · rw [multiple?, if_pos least] at multiple
        exact ⟨significand, exponent, rfl, least, (Option.some.inj multiple).symm⟩
      · simp [multiple?, least] at multiple
  | infinite => simp [multiple?] at multiple

theorem times_near {number : Binary64} {value factor power : Nat}
    (multiple : multiple? number = some value) (small : value * factor < 2 ^ power * one)
    (finite : power ≤ 1023) :
    ∃ product, multiple? (number.times factor) = some product ∧
      2 * product ≤ 2 * (value * factor) + unit (power - 53) ∧
      2 * (value * factor) ≤ 2 * product + unit (power - 53) := by
  obtain ⟨significand, exponent, rfl, least, rfl⟩ := multiple?_eq multiple
  have whole : 0 < one := unit_pos 0
  unfold times
  dsimp only
  split
  · rename_i nonnegative
    have same : significand * unit exponent * factor =
        significand * factor * 2 ^ exponent.toNat * one := by
      rw [unit_of_nonnegative nonnegative]
      simp only [Nat.mul_assoc, Nat.mul_left_comm, Nat.mul_comm]
    rw [same] at small ⊢
    have ratio := Nat.lt_of_mul_lt_mul_right small
    rw [← Nat.mul_one (2 ^ power)] at ratio
    obtain ⟨product, rounded, near⟩ := ofRatio_near (by decide) ratio finite
    rw [Nat.mul_one, Nat.one_mul] at near
    exact ⟨product, rounded, near⟩
  · rename_i negative
    have split_one := one_of_nonpositive least (by omega)
    have denominator : 0 < 2 ^ (-exponent).toNat := Nat.pow_pos (by decide)
    generalize 2 ^ (-exponent).toNat = scale at *
    have ratio : significand * factor < 2 ^ power * scale := by
      apply Nat.lt_of_mul_lt_mul_right (a := unit exponent)
      calc significand * factor * unit exponent
          = significand * unit exponent * factor := by
            rw [Nat.mul_right_comm]
        _ < 2 ^ power * one := small
        _ = 2 ^ power * scale * unit exponent := by rw [split_one, Nat.mul_assoc]
    obtain ⟨product, rounded, near⟩ := ofRatio_near denominator ratio finite
    have same : significand * factor * one =
        scale * (significand * unit exponent * factor) := by
      rw [split_one]
      simp only [Nat.mul_assoc, Nat.mul_left_comm, Nat.mul_comm]
    rw [same] at near
    refine ⟨product, rounded, ?_, ?_⟩
    · refine Nat.le_of_mul_le_mul_left ?_ denominator
      grind
    · refine Nat.le_of_mul_le_mul_left ?_ denominator
      grind

theorem roundUpTo_of_near {number : Binary64} {value whole limit : Nat}
    (multiple : multiple? number = some value) (bounded : whole ≤ limit)
    (below : 2 * (whole * one) ≤ 2 * value + one) (above : 2 * value < 2 * (whole * one) + one) :
    number.roundUpTo limit = whole := by
  obtain ⟨significand, exponent, rfl, least, rfl⟩ := multiple?_eq multiple
  have place : 0 < unit exponent := unit_pos exponent
  unfold roundUpTo
  dsimp only
  split
  · rename_i nonnegative
    have same : significand * unit exponent = significand * 2 ^ exponent.toNat * one := by
      rw [unit_of_nonnegative nonnegative, Nat.mul_assoc]
    rw [same] at below above
    generalize significand * 2 ^ exponent.toNat = number at *
    have least_whole : whole < number + 1 := by
      apply Nat.lt_of_mul_lt_mul_right (a := one)
      have positive : 0 < one := unit_pos 0
      rw [Nat.add_mul]
      omega
    have greatest_whole : number < whole + 1 := by
      apply Nat.lt_of_mul_lt_mul_right (a := one)
      rw [Nat.add_mul]
      omega
    omega
  · rename_i negative
    have split_one := one_of_nonpositive least (by omega)
    rw [split_one] at below above
    generalize 2 ^ (-exponent).toNat = scale at *
    have low : whole * (2 * scale) ≤ 2 * significand + scale := by
      refine Nat.le_of_mul_le_mul_right ?_ place
      grind
    have high : 2 * significand + scale < (whole + 1) * (2 * scale) := by
      apply Nat.lt_of_mul_lt_mul_right (a := unit exponent)
      grind
    rw [Nat.div_eq_of_lt_le low high]
    exact Nat.min_eq_right bounded

end Binary64

end TiledStream.Number
