import Argon2Workbench.Measure.CycleCounter
import Argon2Workbench.Proofs.Outcome

namespace Argon2Workbench

theorem twoTo_le_twoTo {first second : Nat} (le : first ≤ second) : twoTo first ≤ twoTo second :=
  Nat.pow_le_pow_right (by decide) le

theorem tenTo_le_tenTo {first second : Nat} (le : first ≤ second) : tenTo first ≤ tenTo second :=
  Nat.pow_le_pow_right (by decide) le

theorem twoTo_lt_twoTo {first second : Nat} (lt : first < second) : twoTo first < twoTo second :=
  Nat.pow_lt_pow_right (by decide) lt

theorem unitsPerOne_eq : unitsPerOne = twoTo 1074 :=
  rfl

theorem log2_lt_of_lt_twoTo {value width : Nat} (bound : value < twoTo width) (wide : 0 < width) :
    value.log2 < width := by
  by_cases zero : value = 0
  · subst zero
    simpa using wide
  · exact (Nat.log2_lt zero).mpr bound

theorem halfEven_le (numerator denominator : Nat) :
    halfEven numerator denominator ≤ numerator / denominator + 1 := by
  simp only [halfEven]
  split <;> omega

namespace Magnitude

theorem exponent_nearest_le (numerator denominator : Nat) :
    (nearest numerator denominator).exponent ≤ (numerator / denominator).log2 - 52 + 1 := by
  simp only [nearest]
  split <;> simp

/-- The significand has no more than 53 bits before the carry is taken out of it. -/
theorem significand_le (numerator denominator : Nat) :
    halfEven numerator (denominator * twoTo ((numerator / denominator).log2 - 52)) ≤ twoTo 53 := by
  have rounded := halfEven_le numerator (denominator * twoTo ((numerator / denominator).log2 - 52))
  have below : numerator / denominator < twoTo ((numerator / denominator).log2 + 1) :=
    Nat.lt_log2_self
  have enough : twoTo ((numerator / denominator).log2 + 1) ≤
      twoTo ((numerator / denominator).log2 - 52) * twoTo 53 := by
    rw [← twoTo_add]
    exact twoTo_le_twoTo (by omega)
  have quotient : numerator / (denominator * twoTo ((numerator / denominator).log2 - 52)) <
      twoTo 53 := by
    rw [← Nat.div_div_eq_div_mul]
    exact Nat.div_lt_of_lt_mul (Nat.lt_of_lt_of_le below enough)
  omega

theorem units_nearest_le {numerator denominator width : Nat}
    (bound : numerator / denominator < twoTo width) (wide : 53 ≤ width) :
    (nearest numerator denominator).units ≤ twoTo width := by
  have short := log2_lt_of_lt_twoTo bound (by omega)
  have carried : twoTo 53 * twoTo ((numerator / denominator).log2 - 52) ≤ twoTo width := by
    rw [← twoTo_add]
    exact twoTo_le_twoTo (by omega)
  refine Nat.le_trans ?_ carried
  simp only [nearest]
  split
  · simp only [units]
    rw [← twoTo_add, ← twoTo_add]
    exact twoTo_le_twoTo (by omega)
  · exact Nat.mul_le_mul_right _ (significand_le numerator denominator)

end Magnitude

namespace Binary64

theorem ofUnits_finite {numerator denominator width : Nat} (negative : Bool)
    (bound : numerator / denominator < twoTo width) (positive : 0 < width) (narrow : width ≤ 2097) :
    ofUnits negative numerator denominator =
      finite negative (Magnitude.nearest numerator denominator) := by
  have exponent := Magnitude.exponent_nearest_le numerator denominator
  have short := log2_lt_of_lt_twoTo bound positive
  have within : ¬ Magnitude.maxExponent <
      (Magnitude.nearest numerator denominator).exponent := by
    simp only [Magnitude.maxExponent]
    omega
  simp only [ofUnits, if_neg within]

theorem ofRatio_finite {numerator width : Nat} (negative : Bool) (denominator : Nat)
    (bound : numerator < twoTo width) (narrow : width ≤ 1000) :
    ∃ magnitude, ofRatio negative numerator denominator = finite negative magnitude ∧
      magnitude.units ≤ twoTo (width + 1074) := by
  have small : numerator * unitsPerOne / denominator < twoTo (width + 1074) := by
    refine Nat.lt_of_le_of_lt (Nat.div_le_self ..) ?_
    rw [unitsPerOne_eq, twoTo_add]
    exact Nat.mul_lt_mul_of_pos_right bound (twoTo_pos 1074)
  exact ⟨_, ofUnits_finite negative small (by omega) (by omega),
    Magnitude.units_nearest_le small (by omega)⟩

/-- The quotient of an integer of moderate size is always a number. -/
theorem quotient_finite {numerator denominator : Int} {width : Nat}
    (bound : numerator.natAbs < twoTo width) (narrow : width ≤ 1000) (nonzero : denominator ≠ 0) :
    ∃ negative magnitude, quotient numerator denominator = .ok (finite negative magnitude) := by
  obtain ⟨magnitude, rounded, -⟩ := ofRatio_finite ((numerator < 0) != (denominator < 0))
    denominator.natAbs bound narrow
  exact ⟨_, magnitude, by rw [quotient, if_neg nonzero, rounded, bounded_finite]⟩

theorem ofInt_finite {value : Int} {width : Nat} (bound : value.natAbs < twoTo width)
    (narrow : width ≤ 1000) :
    ∃ negative magnitude, ofInt value = .ok (finite negative magnitude) ∧
      magnitude.units ≤ twoTo (width + 1074) := by
  obtain ⟨magnitude, rounded, units⟩ := ofRatio_finite (decide (value < 0)) 1 bound narrow
  exact ⟨decide (value < 0), magnitude, by rw [ofInt, rounded, bounded_finite], units⟩

theorem one_eq : one = finite false ⟨twoTo 52, 1022⟩ := by
  decide +kernel

/-- Multiplying by one rounds once more, so nothing is said of the product but its size. -/
theorem mul_one_finite (negative : Bool) {magnitude : Magnitude} {width : Nat}
    (bound : magnitude.units ≤ twoTo (width + 1074)) (narrow : width ≤ 1000) :
    ∃ product, (finite negative magnitude).mul one = finite negative product ∧
      product.units ≤ twoTo (width + 1 + 1074) := by
  have oneUnits : Magnitude.units ⟨twoTo 52, 1022⟩ = unitsPerOne := by
    have exponents : (1074 : Nat) = 52 + 1022 := rfl
    rw [unitsPerOne_eq, exponents, twoTo_add, Magnitude.units]
  have small : magnitude.units * unitsPerOne / unitsPerOne < twoTo (width + 1 + 1074) := by
    rw [unitsPerOne_eq, Nat.mul_div_cancel _ (twoTo_pos 1074)]
    exact Nat.lt_of_le_of_lt bound (twoTo_lt_twoTo (by omega))
  have rounded := ofUnits_finite negative small (by omega) (by omega)
  refine ⟨.nearest (magnitude.units * unitsPerOne) unitsPerOne, ?_,
    Magnitude.units_nearest_le small (by omega)⟩
  rw [one_eq]
  simp only [mul, oneUnits, Bool.bne_false, rounded]

theorem truncate_finite (negative : Bool) {magnitude : Magnitude} {width : Nat}
    (bound : magnitude.units ≤ twoTo (width + 1074)) :
    ∃ whole, truncate (finite negative magnitude) = .ok whole ∧ whole.natAbs ≤ twoTo width := by
  have below : magnitude.units / unitsPerOne ≤ twoTo width := by
    refine Nat.div_le_of_le_mul ?_
    rwa [unitsPerOne_eq, ← twoTo_add, Nat.add_comm]
  refine ⟨_, rfl, ?_⟩
  cases negative
  · exact below
  · rw [if_pos rfl, Int.natAbs_neg]
    exact below

end Binary64

namespace CycleCounter

theorem build_positive {gigahertz : Binary64} (positive : gigahertz.notPositive = false) :
    build gigahertz = .ok ⟨gigahertz, positive⟩ := by
  simp [build, positive]

theorem one_positive : Binary64.one.notPositive = false := by
  decide +kernel

/-- A count of 64 bits is always turned into cycles. -/
theorem cycles_one (counter : CycleCounter) (steady : counter.gigahertz = .one) {ticks : Int}
    (bound : ticks.natAbs < twoTo 64) :
    ∃ cycles, counter.cycles ticks = .ok cycles ∧ cycles.natAbs ≤ twoTo 65 := by
  obtain ⟨negative, magnitude, converted, units⟩ := Binary64.ofInt_finite bound (by decide)
  obtain ⟨product, multiplied, productUnits⟩ :=
    Binary64.mul_one_finite negative units (by decide)
  obtain ⟨whole, truncated, size⟩ := Binary64.truncate_finite negative productUnits
  refine ⟨whole, ?_, size⟩
  rw [cycles, converted, ok_bind, steady, multiplied, truncated]

end CycleCounter

/-- What lies between two such counts, in units of `2 ^ 20`. -/
theorem Binary64.quotient_between {first last : Int} (firstBound : first.natAbs ≤ twoTo 65)
    (lastBound : last.natAbs ≤ twoTo 65) {divisor : Int} (nonzero : divisor ≠ 0) :
    ∃ negative magnitude, quotient (last - first) divisor = .ok (finite negative magnitude) := by
  have wide : 2 * twoTo 65 < twoTo 67 := by decide
  have small : (last - first).natAbs < twoTo 67 := by omega
  exact quotient_finite small (by decide) nonzero

end Argon2Workbench
