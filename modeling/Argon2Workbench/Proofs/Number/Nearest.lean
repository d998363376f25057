import Argon2Workbench.Proofs.Number.Order
import Mathlib.Algebra.Order.Field.Basic
import Mathlib.Data.Rat.Cast.Order
import Mathlib.Tactic.Linarith

/-! The nearest whole number to a rational one, and the operations of binary64 that do not round.

Dividing by a power of two moves a number of 53 bits along without losing any of them, as long as
they stay above the least unit. What is written of such a quotient to some places is therefore
rounded once, from its exact value.
-/

namespace Argon2Workbench

/-- The whole number that is nearest, and of two that are equally near the even one. -/
structure Nearest (value : ℚ) (whole : ℕ) : Prop where
  near : |value - whole| ≤ 1 / 2
  even : |value - whole| = 1 / 2 → Even whole

namespace Nearest

variable {value : ℚ}

theorem unique_of_le {first second : ℕ} (left : Nearest value first)
    (right : Nearest value second) (order : first ≤ second) : first = second := by
  obtain ⟨-, above⟩ := abs_le.mp left.near
  obtain ⟨below, -⟩ := abs_le.mp right.near
  rcases Nat.eq_or_lt_of_le order with same | apart
  · exact same
  · have step : (first : ℚ) + 1 ≤ second := by exact_mod_cast apart
    have half : value - first = 1 / 2 := by linarith
    have next : second = first + 1 := by
      have reached : (second : ℚ) ≤ first + 1 := by linarith
      exact Nat.le_antisymm (by exact_mod_cast reached) apart
    have firstEven : Even first := left.even (by rw [half, abs_of_nonneg (by norm_num)])
    have secondEven : Even second := right.even (by
      rw [next, Nat.cast_add, Nat.cast_one, ← sub_sub, half]
      norm_num)
    rw [next] at secondEven
    exact absurd firstEven (Nat.even_add_one.mp secondEven)

theorem unique {first second : ℕ} (left : Nearest value first)
    (right : Nearest value second) : first = second := by
  rcases Nat.le_total first second with order | order
  · exact left.unique_of_le right order
  · exact (right.unique_of_le left order).symm

theorem of_distance {numerator denominator whole : ℕ} (positive : 0 < denominator)
    (near : 2 * |(numerator : ℤ) - whole * denominator| ≤ denominator)
    (even : 2 * |(numerator : ℤ) - whole * denominator| = denominator → Even whole) :
    Nearest (numerator / denominator) whole := by
  have scale : (0 : ℚ) < denominator := Nat.cast_pos.mpr positive
  have distance : |(numerator : ℚ) / denominator - whole| =
      (|(numerator : ℤ) - whole * denominator| : ℤ) / denominator := by
    push_cast
    rw [← abs_of_pos scale, ← abs_div, abs_of_pos scale, sub_div, mul_div_cancel_right₀ _ scale.ne']
  constructor
  · rw [distance, div_le_div_iff₀ scale two_pos, one_mul, mul_comm]
    exact_mod_cast near
  · rw [distance, div_eq_div_iff scale.ne' two_ne_zero, one_mul, mul_comm]
    exact fun half => even (by exact_mod_cast half)

theorem halfEven (numerator : ℕ) {denominator : ℕ} (positive : 0 < denominator) :
    Nearest (numerator / denominator) (Argon2Workbench.halfEven numerator denominator) := by
  have parts := Nat.div_add_mod' numerator denominator
  have remainder := Nat.mod_lt numerator positive
  simp only [Argon2Workbench.halfEven, Bool.or_eq_true, Bool.and_eq_true, decide_eq_true_eq,
    beq_iff_eq]
  split
  · next down =>
      have distance : |(numerator : ℤ) - (numerator / denominator : ℕ) * denominator| =
          (numerator % denominator : ℕ) := by
        rw [abs_of_nonneg (by omega)]
        omega
      refine of_distance positive ?_ fun half => ?_
      · omega
      · rw [distance] at half
        rcases down with below | ⟨-, even⟩
        · omega
        · exact Nat.even_iff.mpr even
  · next up =>
      have distance : |(numerator : ℤ) - (numerator / denominator + 1 : ℕ) * denominator| =
          denominator - (numerator % denominator : ℕ) := by
        rw [Nat.cast_add_one, add_one_mul, abs_of_nonpos (by omega)]
        omega
      refine of_distance positive ?_ fun half => ?_
      · omega
      · rw [distance] at half
        have odd : ¬ Even (numerator / denominator) := by
          rw [Nat.even_iff]
          omega
        exact Nat.even_add_one.mpr odd

end Nearest

theorem halfEven_mul (count : Nat) {denominator : Nat} (positive : 0 < denominator) :
    halfEven (count * denominator) denominator = count := by
  simp [halfEven, Nat.mul_div_cancel count positive, positive]

namespace Magnitude

theorem units_nearest_exact {significand denominator : Nat} (places : Nat)
    (short : significand < twoTo 53) (positive : 0 < denominator) :
    (nearest (significand * twoTo places * denominator) denominator).units =
      significand * twoTo places := by
  have below : significand * twoTo places < twoTo (53 + places) := by
    rw [twoTo_add]
    exact Nat.mul_lt_mul_of_pos_right short (twoTo_pos places)
  -- The step is no wider than the place of the last bit, so it goes into the significand.
  have width := log2_lt_of_lt_twoTo below (by omega)
  rw [units_nearest, step, Nat.mul_div_cancel _ positive]
  obtain ⟨rest, split⟩ : ∃ rest, places = rest + ((significand * twoTo places).log2 - 52) :=
    Nat.exists_eq_add_of_le' (by omega)
  generalize (significand * twoTo places).log2 - 52 = lost at split ⊢
  have factored : significand * twoTo places * denominator =
      significand * twoTo rest * (denominator * twoTo lost) := by
    rw [split, twoTo_add]
    ac_rfl
  rw [factored, halfEven_mul _ (Nat.mul_pos positive (twoTo_pos lost)), split, twoTo_add,
    Nat.mul_assoc]

end Magnitude

namespace Binary64

theorem ofUnits_exact (negative : Bool) {significand denominator places : Nat}
    (short : significand < twoTo 53) (inRange : places ≤ 2044) (positive : 0 < denominator) :
    ∃ magnitude, ofUnits negative (significand * twoTo places * denominator) denominator =
        finite negative magnitude ∧ magnitude.units = significand * twoTo places := by
  have below : significand * twoTo places * denominator / denominator < twoTo (53 + places) := by
    rw [Nat.mul_div_cancel _ positive, twoTo_add]
    exact Nat.mul_lt_mul_of_pos_right short (twoTo_pos places)
  exact ⟨_, ofUnits_finite negative below (by omega) (by omega),
    Magnitude.units_nearest_exact places short positive⟩

theorem quotient_exact {numerator : Int} {places : Nat} (short : numerator.natAbs < twoTo 53)
    (few : places ≤ 1074) :
    ∃ magnitude, quotient numerator (twoTo places : Nat) =
        .ok (finite (decide (numerator < 0)) magnitude) ∧
      magnitude.units = numerator.natAbs * twoTo (1074 - places) := by
  obtain ⟨magnitude, rounded, units⟩ := ofUnits_exact (decide (numerator < 0)) short
    (Nat.le_trans (Nat.sub_le 1074 places) (by decide)) (twoTo_pos places)
  have nonzero : ((twoTo places : Nat) : Int) ≠ 0 :=
    Int.natCast_ne_zero.mpr (Nat.ne_of_gt (twoTo_pos places))
  have natural : decide (((twoTo places : Nat) : Int) < 0) = false :=
    decide_eq_false (Int.not_lt.mpr (Int.natCast_nonneg _))
  rw [Nat.mul_assoc, ← twoTo_add, Nat.sub_add_cancel few, ← unitsPerOne_eq] at rounded
  refine ⟨magnitude, ?_, units⟩
  rw [quotient, if_neg nonzero, natural, Bool.bne_false, Int.natAbs_natCast, ofRatio, rounded,
    bounded_finite]

theorem scaleDown_exact (negative : Bool) {magnitude : Magnitude} {significand left places : Nat}
    (short : significand < twoTo 53) (inRange : left ≤ 2044)
    (units : magnitude.units = significand * twoTo (left + places)) :
    ∃ scaled, (finite negative magnitude).scaleDown places = finite negative scaled ∧
      scaled.units = significand * twoTo left := by
  obtain ⟨scaled, rounded, exact⟩ := ofUnits_exact negative short inRange (twoTo_pos places)
  rw [Nat.mul_assoc, ← twoTo_add] at rounded
  exact ⟨scaled, by rw [scaleDown, units, rounded], exact⟩

end Binary64

namespace Decimal

/-- Hundredths written out: the whole part, and two digits behind a point. -/
def hundredths (negative : Bool) (count : ℕ) : String :=
  String.ofList (signed negative (Nat.toDigits 10 (count / 100) ++
    ['.', Nat.digitChar (count / 10 % 10), Nat.digitChar (count % 10)]))

/-- The text of a rational number that is rounded once to two decimals. A negative number keeps
its sign even if it is rounded to zero. -/
def ToHundredths (value : ℚ) (text : String) : Prop :=
  ∃ count, Nearest (|value| * 100) count ∧ text = hundredths (decide (value < 0)) count

theorem ToHundredths.unique {value : ℚ} {first second : String} (left : ToHundredths value first)
    (right : ToHundredths value second) : first = second := by
  obtain ⟨_, leftNearest, rfl⟩ := left
  obtain ⟨_, rightNearest, rfl⟩ := right
  rw [leftNearest.unique rightNearest]

theorem ToHundredths.of_nearest {value : ℚ} {negative : Bool} {count : ℕ}
    (sign : value < 0 ↔ negative = true) (nearest : Nearest (|value| * 100) count) :
    ToHundredths value (hundredths negative count) :=
  ⟨count, nearest, by rw [decide_eq_decide.mpr sign, Bool.decide_coe]⟩

theorem padded_two : ∀ count < 100,
    padded 2 count = [Nat.digitChar (count / 10), Nat.digitChar (count % 10)] := by
  decide +kernel

theorem fixedDigits_two (count : Nat) :
    fixedDigits false 2 count = Nat.toDigits 10 (count / 100) ++
      ['.', Nat.digitChar (count / 10 % 10), Nat.digitChar (count % 10)] := by
  have hundred : tenTo 2 = 100 := rfl
  have tens : count % 100 / 10 = count / 10 % 10 := by omega
  have ones : count % 100 % 10 = count % 10 := by omega
  rw [fixedDigits, if_neg (by decide), hundred, padded_two _ (Nat.mod_lt _ (by decide)), tens, ones]
  rfl

/-- What is written of a finite number is its exact value, rounded once. -/
theorem fixed_toHundredths {negative : Bool} {magnitude : Magnitude} {value : ℚ}
    (sign : negative = decide (value < 0)) (size : |value| * unitsPerOne = magnitude.units) :
    ToHundredths value (fixed 2 (.finite negative magnitude)) := by
  have ones : (unitsPerOne : ℚ) ≠ 0 := Nat.cast_ne_zero.mpr (Nat.ne_of_gt unitsPerOne_pos)
  have scaled : |value| * 100 = (magnitude.units * tenTo 2 : ℕ) / (unitsPerOne : ℕ) := by
    have hundred : tenTo 2 = 100 := rfl
    rw [eq_div_iff ones, mul_right_comm, size, hundred]
    push_cast
    rfl
  refine ⟨_, scaled ▸ Nearest.halfEven _ unitsPerOne_pos, ?_⟩
  rw [fixed, fixedMagnitude, fixedDigits_two, sign, hundredths]

theorem quotient_toHundredths {numerator : Int} {magnitude : Magnitude} {places : Nat}
    (few : places ≤ 1074) (units : magnitude.units = numerator.natAbs * twoTo (1074 - places)) :
    ToHundredths (numerator / 2 ^ places)
      (fixed 2 (.finite (decide (numerator < 0)) magnitude)) := by
  have positive : (0 : ℚ) < 2 ^ places := pow_pos two_pos places
  have sign : ((numerator : ℚ) / 2 ^ places < 0) ↔ numerator < 0 := by
    rw [div_lt_iff₀ positive, zero_mul, Int.cast_lt_zero]
  have ones : (unitsPerOne : ℚ) = twoTo (1074 - places) * 2 ^ places := by
    rw [unitsPerOne_eq, ← Nat.sub_add_cancel few, twoTo_add, Nat.add_sub_cancel, Nat.cast_mul]
    congr 1
    exact Nat.cast_pow 2 places
  apply fixed_toHundredths
  · exact decide_eq_decide.mpr sign.symm
  · rw [units, ones, abs_div, abs_of_pos positive, ← Int.cast_abs, Int.abs_eq_natAbs,
      Int.cast_natCast, mul_comm (twoTo _ : ℚ), ← mul_assoc, div_mul_cancel₀ _ positive.ne',
      Nat.cast_mul]

end Decimal

end Argon2Workbench
