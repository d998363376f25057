import Argon2Workbench.Proofs.Number.Scaling

/-! Roundings keep the order of what they round.

A magnitude is a significand in steps of a power of two. Two magnitudes in the same steps are
ordered as their significands are; where the steps differ, the greatest significand of the finer
ones is no further than the least of the coarser ones.
-/

namespace Argon2Workbench

theorem le_halfEven (numerator denominator : Nat) :
    numerator / denominator ≤ halfEven numerator denominator := by
  simp only [halfEven]
  split <;> omega

theorem log2_mono {first second : Nat} (le : first ≤ second) : first.log2 ≤ second.log2 := by
  by_cases zero : first = 0
  · rw [zero, Nat.log2_zero]
    exact Nat.zero_le _
  · exact le_log2_of_twoTo_le (Nat.le_trans (Nat.log2_self_le zero) le)

theorem halfEven_mono {first second : Nat} (denominator : Nat) (le : first ≤ second) :
    halfEven first denominator ≤ halfEven second denominator := by
  have quotients : first / denominator ≤ second / denominator := Nat.div_le_div_right le
  rcases Nat.lt_or_eq_of_le quotients with below | same
  · have up := halfEven_le first denominator
    have down := le_halfEven second denominator
    omega
  · -- Of one quotient the smaller remainder is rounded up only if the larger one is.
    have firstParts := Nat.div_add_mod first denominator
    have secondParts := Nat.div_add_mod second denominator
    rw [same] at firstParts
    have remainders : first % denominator ≤ second % denominator := by omega
    simp only [halfEven, same, Bool.or_eq_true, Bool.and_eq_true, decide_eq_true_eq, beq_iff_eq]
    split <;> split <;> omega

namespace Magnitude

/-- The step between the magnitudes that a ratio of units lies among. -/
def step (numerator denominator : Nat) : Nat :=
  (numerator / denominator).log2 - 52

/-- A significand that has been carried over stands for the same units. -/
theorem units_nearest (numerator denominator : Nat) :
    (nearest numerator denominator).units =
      halfEven numerator (denominator * twoTo (step numerator denominator)) *
        twoTo (step numerator denominator) := by
  simp only [nearest, step]
  split
  · next carried =>
      have places : 53 + ((numerator / denominator).log2 - 52) =
          52 + ((numerator / denominator).log2 - 52 + 1) := by omega
      rw [units_mk, carried, ← twoTo_add, ← twoTo_add, places]
  · rfl

theorem units_nearest_mono {first second : Nat} (denominator : Nat) (le : first ≤ second) :
    (nearest first denominator).units ≤ (nearest second denominator).units := by
  have quotients : first / denominator ≤ second / denominator := Nat.div_le_div_right le
  rw [units_nearest, units_nearest]
  rcases Nat.lt_or_ge (step first denominator) (step second denominator) with finer | coarser
  · -- With steps above the finest the significand has all of its 53 bits.
    simp only [step] at finer ⊢
    have wide : twoTo (second / denominator).log2 ≤ second / denominator := by
      refine Nat.log2_self_le fun none => ?_
      rw [none, Nat.log2_zero] at finer
      omega
    have least : twoTo 52 ≤
        halfEven second (denominator * twoTo ((second / denominator).log2 - 52)) := by
      refine Nat.le_trans ?_ (le_halfEven ..)
      rw [← Nat.div_div_eq_div_mul, Nat.le_div_iff_mul_le (twoTo_pos _), ← twoTo_add]
      refine Nat.le_trans (twoTo_le_twoTo ?_) wide
      omega
    have between : 53 + ((first / denominator).log2 - 52) ≤
        52 + ((second / denominator).log2 - 52) := by omega
    calc halfEven first (denominator * twoTo ((first / denominator).log2 - 52)) *
          twoTo ((first / denominator).log2 - 52)
      _ ≤ twoTo 53 * twoTo ((first / denominator).log2 - 52) :=
        Nat.mul_le_mul_right _ (significand_le ..)
      _ ≤ twoTo 52 * twoTo ((second / denominator).log2 - 52) := by
        rw [← twoTo_add, ← twoTo_add]
        exact twoTo_le_twoTo between
      _ ≤ halfEven second (denominator * twoTo ((second / denominator).log2 - 52)) *
          twoTo ((second / denominator).log2 - 52) := Nat.mul_le_mul_right _ least
  · have same : step first denominator = step second denominator := by
      refine Nat.le_antisymm ?_ coarser
      have widths : (first / denominator).log2 ≤ (second / denominator).log2 := log2_mono quotients
      simp only [step]
      omega
    rw [same]
    exact Nat.mul_le_mul_right _ (halfEven_mono _ le)

end Magnitude

def signedBy (value : Int) (size : Nat → Nat) : Int :=
  if value < 0 then -(size value.natAbs : Int) else size value.natAbs

theorem signedBy_mono {size : Nat → Nat}
    (mono : ∀ first second, first ≤ second → size first ≤ size second) {first second : Int}
    (le : first ≤ second) : signedBy first size ≤ signedBy second size := by
  rcases Int.lt_or_le first 0 with firstNegative | firstNatural
  · rcases Int.lt_or_le second 0 with secondNegative | secondNatural
    · -- Below zero the larger integer has the smaller size.
      have sizes := mono second.natAbs first.natAbs (by omega)
      simp only [signedBy, if_pos firstNegative, if_pos secondNegative]
      omega
    · simp only [signedBy, if_pos firstNegative, if_neg (Int.not_lt.mpr secondNatural)]
      omega
  · have secondNatural := Int.le_trans firstNatural le
    have sizes := mono first.natAbs second.natAbs (by omega)
    simp only [signedBy, if_neg (Int.not_lt.mpr firstNatural),
      if_neg (Int.not_lt.mpr secondNatural)]
    omega

namespace Binary64

theorem ofUnits_eq_finite {negative sign : Bool} {numerator denominator : Nat}
    {magnitude : Magnitude} (rounded : ofUnits negative numerator denominator =
      finite sign magnitude) :
    sign = negative ∧ magnitude = Magnitude.nearest numerator denominator := by
  simp only [ofUnits] at rounded
  split at rounded
  · contradiction
  · cases rounded
    exact ⟨rfl, rfl⟩

theorem bounded_eq_ok {error : ConversionError} {number rounded : Binary64}
    (within : bounded error number = .ok rounded) : rounded = number := by
  cases number with
  | infinite negative => contradiction
  | finite negative magnitude =>
      cases within
      rfl
  | nan =>
      cases within
      rfl

theorem ofInt_eq_ok {value : Int} {number : Binary64} (converted : ofInt value = .ok number) :
    number = finite (decide (value < 0)) (Magnitude.nearest (value.natAbs * unitsPerOne) 1) := by
  have rounded := bounded_eq_ok converted
  subst rounded
  simp only [ofInt, ofRatio, ofUnits] at converted ⊢
  split at converted
  · contradiction
  · next inRange => rw [if_neg inRange]

end Binary64

namespace CycleCounter

/-- What the counter makes of so many ticks: they are rounded, then their product is, and of
that the whole part is taken. -/
def wholeCycles (factor : Magnitude) (ticks : Nat) : Nat :=
  (Magnitude.nearest ((Magnitude.nearest (ticks * unitsPerOne) 1).units * factor.units)
    unitsPerOne).units / unitsPerOne

theorem wholeCycles_mono (factor : Magnitude) (first second : Nat) (le : first ≤ second) :
    wholeCycles factor first ≤ wholeCycles factor second := by
  have converted := Magnitude.units_nearest_mono 1 (Nat.mul_le_mul_right unitsPerOne le)
  exact Nat.div_le_div_right
    (Magnitude.units_nearest_mono unitsPerOne (Nat.mul_le_mul_right factor.units converted))

variable {counter : CycleCounter}

/-- A counter that turns any ticks into cycles has a frequency that is a number. -/
theorem cycles_eq_signed {ticks cycles : Int} (counted : counter.cycles ticks = .ok cycles) :
    ∃ factor, counter.gigahertz = .finite false factor ∧
      cycles = signedBy ticks (wholeCycles factor) := by
  obtain ⟨gigahertz, positive⟩ := counter
  obtain ⟨number, converted, counted⟩ := bind_eq_ok counted
  cases Binary64.ofInt_eq_ok converted
  cases gigahertz with
  | nan => contradiction
  | infinite negative =>
      simp only [Binary64.mul] at counted
      split at counted <;> contradiction
  | finite negative factor =>
      simp only [Binary64.notPositive, Bool.or_eq_false_iff] at positive
      obtain ⟨rfl, -⟩ := positive
      refine ⟨factor, rfl, ?_⟩
      simp only [Binary64.mul, Bool.bne_false] at counted
      cases rounded : Binary64.ofUnits (decide (ticks < 0))
          ((Magnitude.nearest (ticks.natAbs * unitsPerOne) 1).units * factor.units)
          unitsPerOne with
      | nan =>
          rw [rounded] at counted
          contradiction
      | infinite negative =>
          rw [rounded] at counted
          contradiction
      | finite sign product =>
          obtain ⟨signs, magnitudes⟩ := Binary64.ofUnits_eq_finite rounded
          rw [rounded, Binary64.truncate, signs, magnitudes] at counted
          have whole := Except.ok.inj counted
          simp only [decide_eq_true_eq] at whole
          exact whole.symm

/-- Of two ticks the later never counts for fewer cycles, although each count is rounded twice
and cut off. -/
theorem cycles_mono {firstTicks lastTicks first last : Int} (le : firstTicks ≤ lastTicks)
    (firstCounted : counter.cycles firstTicks = .ok first)
    (lastCounted : counter.cycles lastTicks = .ok last) : first ≤ last := by
  obtain ⟨factor, frequency, rfl⟩ := cycles_eq_signed firstCounted
  obtain ⟨same, frequency', rfl⟩ := cycles_eq_signed lastCounted
  cases frequency.symm.trans frequency'
  exact signedBy_mono (wholeCycles_mono factor) le

end CycleCounter

end Argon2Workbench
