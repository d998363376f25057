import Argon2Workbench.Number.Numeral
import Argon2Workbench.Proofs.Number.Rounding

/-! Frequencies by which every count of 63 bits can be multiplied.

The largest count is rounded to `2 ^ 63`, and with numbers that have 53 bits no product goes
further than the one with that.
-/

namespace Argon2Workbench

theorem halfEven_le_of_le {numerator denominator bound : Nat}
    (within : numerator ≤ bound * denominator) : halfEven numerator denominator ≤ bound := by
  have parts := Nat.div_add_mod numerator denominator
  have quotient : numerator / denominator ≤ bound := by
    refine Nat.div_le_of_le_mul ?_
    rwa [Nat.mul_comm]
  rcases Nat.eq_or_lt_of_le quotient with full | below
  · -- Nothing is left over, so nothing is rounded up.
    have exact : numerator % denominator = 0 := by
      rw [full, Nat.mul_comm denominator bound] at parts
      omega
    simp only [halfEven, exact, full]
    rcases Nat.eq_zero_or_pos denominator with rfl | positive
    · have none : bound = 0 := by
        rw [← full, Nat.div_zero]
      simp [none]
    · simp [positive]
  · have rounded := halfEven_le numerator denominator
    omega

theorem le_log2_of_twoTo_le {value width : Nat} (bound : twoTo width ≤ value) :
    width ≤ value.log2 := by
  have nonzero : value ≠ 0 := Nat.ne_of_gt (Nat.lt_of_lt_of_le (twoTo_pos width) bound)
  exact (Nat.le_log2 nonzero).mpr bound

theorem unitsPerOne_pos : 0 < unitsPerOne :=
  twoTo_pos 1074

theorem twoTo_mul_unitsPerOne (width : Nat) : twoTo width * unitsPerOne = twoTo (width + 1074) := by
  rw [unitsPerOne_eq, twoTo_add]

namespace Magnitude

theorem significand_nearest_lt (numerator denominator : Nat) :
    (nearest numerator denominator).significand < twoTo 53 := by
  have rounded := significand_le numerator denominator
  have carried : twoTo 52 < twoTo 53 := twoTo_lt_twoTo (by decide)
  simp only [nearest]
  split
  · exact carried
  · simp only
    omega

theorem units_mk (significand exponent : Nat) :
    units ⟨significand, exponent⟩ = significand * twoTo exponent :=
  rfl

theorem le_exponent_nearest (numerator denominator : Nat) :
    (numerator / denominator).log2 - 52 ≤ (nearest numerator denominator).exponent := by
  simp only [nearest]
  split <;> simp

/-- A magnitude of 53 bits that is below a power of two is below it by a unit in its last
place. -/
theorem units_le_of_lt {magnitude : Magnitude} {places : Nat}
    (short : magnitude.significand < twoTo 53) (below : magnitude.units < twoTo (53 + places)) :
    magnitude.units ≤ (twoTo 53 - 1) * twoTo places := by
  simp only [units] at below ⊢
  rcases Nat.le_total magnitude.exponent places with low | high
  · exact Nat.mul_le_mul (Nat.le_sub_one_of_lt short) (twoTo_le_twoTo low)
  · obtain ⟨more, exponent⟩ := Nat.exists_eq_add_of_le' high
    rw [exponent, twoTo_add, ← Nat.mul_assoc] at below ⊢
    rw [twoTo_add] at below
    exact Nat.mul_le_mul_right _
      (Nat.le_sub_one_of_lt (Nat.lt_of_mul_lt_mul_right below))

end Magnitude

namespace Binary64

def greatestUnits : Nat :=
  (twoTo 53 - 1) * twoTo Magnitude.maxExponent

theorem greatestUnits_lt : greatestUnits < twoTo 2098 := by
  have split : (2098 : Nat) = 53 + Magnitude.maxExponent := rfl
  rw [split, twoTo_add]
  exact Nat.mul_lt_mul_of_pos_right (Nat.sub_lt (twoTo_pos 53) Nat.one_pos) (twoTo_pos _)

theorem ofUnits_within {numerator denominator : Nat} (negative : Bool)
    (within : numerator ≤ greatestUnits * denominator) :
    ofUnits negative numerator denominator =
      finite negative (Magnitude.nearest numerator denominator) := by
  have quotient : numerator / denominator < twoTo 2098 := by
    refine Nat.lt_of_le_of_lt (Nat.div_le_of_le_mul ?_) greatestUnits_lt
    rwa [Nat.mul_comm]
  have short := log2_lt_of_lt_twoTo quotient (by decide)
  have inRange : ¬ Magnitude.maxExponent < (Magnitude.nearest numerator denominator).exponent := by
    have grown := Magnitude.exponent_nearest_le numerator denominator
    by_cases last : (numerator / denominator).log2 - 52 = Magnitude.maxExponent
    · -- At the last exponent the significand is not carried over.
      have kept :
          halfEven numerator (denominator * twoTo Magnitude.maxExponent) ≤ twoTo 53 - 1 := by
        apply halfEven_le_of_le
        rw [Nat.mul_comm denominator, ← Nat.mul_assoc]
        exact within
      have uncarried : halfEven numerator (denominator * twoTo Magnitude.maxExponent) ≠
          twoTo 53 := by
        have positive := twoTo_pos 53
        omega
      simp only [Magnitude.nearest, last, if_neg uncarried]
      exact Nat.lt_irrefl _
    · simp only [Magnitude.maxExponent] at last ⊢
      omega
  simp only [ofUnits, if_neg inRange]

theorem ofUnits_beyond {numerator denominator : Nat} (negative : Bool) (positive : 0 < denominator)
    (beyond : twoTo 2098 * denominator ≤ numerator) :
    ofUnits negative numerator denominator = infinite negative := by
  have long := le_log2_of_twoTo_le ((Nat.le_div_iff_mul_le positive).mpr beyond)
  have outside : Magnitude.maxExponent < (Magnitude.nearest numerator denominator).exponent := by
    have least := Magnitude.le_exponent_nearest numerator denominator
    simp only [Magnitude.maxExponent]
    omega
  simp only [ofUnits, if_pos outside]

/-- If the number is finite, it has 53 bits and an exponent in range. -/
inductive Sized : Binary64 → Prop
  | finite {negative : Bool} {magnitude : Magnitude} (short : magnitude.significand < twoTo 53)
      (inRange : magnitude.exponent ≤ Magnitude.maxExponent) : Sized (finite negative magnitude)
  | infinite {negative : Bool} : Sized (infinite negative)
  | nan : Sized nan

theorem ofUnits_sized (negative : Bool) (numerator denominator : Nat) :
    (ofUnits negative numerator denominator).Sized := by
  simp only [ofUnits]
  split
  · exact .infinite
  · next inRange =>
      exact .finite (Magnitude.significand_nearest_lt ..) (Nat.le_of_not_lt inRange)

theorem mul_sized (left right : Binary64) : (left.mul right).Sized := by
  cases left with
  | finite negative magnitude =>
      cases right with
      | finite =>
          rw [mul]
          exact ofUnits_sized ..
      | infinite =>
          simp only [mul]
          split
          · exact .nan
          · exact .infinite
      | nan => exact .nan
  | infinite negative =>
      cases right with
      | finite =>
          simp only [mul]
          split
          · exact .nan
          · exact .infinite
      | infinite => exact .infinite
      | nan => exact .nan
  | nan => cases right <;> exact .nan

theorem truncate_lt {number : Binary64} (sized : number.Sized) {whole : Int}
    (truncated : number.truncate = .ok whole) : whole.natAbs < twoTo 1024 := by
  cases sized with
  | infinite => contradiction
  | nan => contradiction
  | @finite negative magnitude short inRange =>
      have units : magnitude.units < twoTo 1024 * unitsPerOne := by
        have scale : twoTo 1024 * unitsPerOne = twoTo 53 * twoTo Magnitude.maxExponent :=
          (twoTo_mul_unitsPerOne 1024).trans (twoTo_add 53 Magnitude.maxExponent)
        rw [scale]
        exact Nat.lt_of_lt_of_le (Nat.mul_lt_mul_of_pos_right short (twoTo_pos _))
          (Nat.mul_le_mul_left _ (twoTo_le_twoTo inRange))
      have below : magnitude.units / unitsPerOne < twoTo 1024 :=
        Nat.div_lt_of_lt_mul (by rwa [Nat.mul_comm])
      cases truncated
      cases negative
      · exact below
      · rw [if_pos rfl, Int.natAbs_neg]
        exact below

/-- A quotient by a power of two is finite as soon as that power takes it into range. -/
theorem quotient_finite_places {numerator : Int} {width places : Nat}
    (bound : numerator.natAbs < twoTo (width + places)) (narrow : width ≤ 1023) :
    ∃ negative magnitude, quotient numerator (twoTo places : Nat) =
      .ok (finite negative magnitude) := by
  have nonzero : ((twoTo places : Nat) : Int) ≠ 0 :=
    Int.natCast_ne_zero.mpr (Nat.ne_of_gt (twoTo_pos places))
  have small : numerator.natAbs * unitsPerOne / twoTo places < twoTo (width + 1074) := by
    apply Nat.div_lt_of_lt_mul
    rw [← twoTo_mul_unitsPerOne, ← Nat.mul_assoc, ← twoTo_add, Nat.add_comm places]
    exact Nat.mul_lt_mul_of_pos_right bound unitsPerOne_pos
  have rounded (negative : Bool) := ofUnits_finite negative small (by omega) (by omega)
  refine ⟨(numerator < 0) != (((twoTo places : Nat) : Int) < 0),
    .nearest (numerator.natAbs * unitsPerOne) (twoTo places), ?_⟩
  rw [quotient, if_neg nonzero, ofRatio, Int.natAbs_natCast, rounded, bounded_finite]

def Usable (number : Binary64) : Prop :=
  ∃ magnitude, number = finite false magnitude ∧ 0 < magnitude.units ∧
    magnitude.units < twoTo 961 * unitsPerOne

theorem Usable.positive {number : Binary64} (usable : number.Usable) :
    number.notPositive = false := by
  obtain ⟨magnitude, rfl, above, -⟩ := usable
  simp [notPositive, Nat.ne_of_gt above]

/-- With a usable number no product goes beyond the largest finite number. -/
theorem mul_usable (negative : Bool) {magnitude : Magnitude} {number : Binary64}
    (bound : magnitude.units ≤ twoTo (63 + 1074)) (sized : number.Sized)
    (usable : number.Usable) :
    ∃ sign product, (finite negative magnitude).mul number = finite sign product := by
  obtain ⟨factor, rfl, -, below⟩ := usable
  cases sized with
  | finite short inRange =>
      have last : factor.units ≤ (twoTo 53 - 1) * twoTo 1982 := by
        have places : 961 + 1074 = 53 + 1982 := rfl
        rw [twoTo_mul_unitsPerOne, places] at below
        exact Magnitude.units_le_of_lt short below
      have places : 63 + 1074 + 1982 = Magnitude.maxExponent + 1074 := rfl
      have within : magnitude.units * factor.units ≤ greatestUnits * unitsPerOne :=
        calc magnitude.units * factor.units
          _ ≤ twoTo (63 + 1074) * ((twoTo 53 - 1) * twoTo 1982) := Nat.mul_le_mul bound last
          _ = (twoTo 53 - 1) * twoTo (Magnitude.maxExponent + 1074) := by
            rw [Nat.mul_left_comm, ← twoTo_add, places]
          _ = greatestUnits * unitsPerOne := by
            rw [← twoTo_mul_unitsPerOne, greatestUnits, Nat.mul_assoc]
      exact ⟨_, _, by rw [mul, ofUnits_within _ within]⟩

/-- The largest count of 63 bits becomes a power of two. -/
theorem ofInt_greatest :
    ofInt (twoTo 63 - 1 : Nat) = .ok (finite false ⟨twoTo 52, 1085⟩) := by
  have rounded : ofRatio false (twoTo 63 - 1) 1 = finite false ⟨twoTo 52, 1085⟩ := by
    decide +kernel
  change bounded .integerTooLarge (ofRatio false (twoTo 63 - 1) 1) = _
  rw [rounded, bounded_finite]

theorem mul_greatest_infinite {factor : Magnitude}
    (above : twoTo 961 * unitsPerOne ≤ factor.units) :
    (finite false ⟨twoTo 52, 1085⟩).mul (finite false factor) = infinite false := by
  have places : 52 + 1085 + 961 = 2098 := rfl
  have beyond : twoTo 2098 * unitsPerOne ≤ Magnitude.units ⟨twoTo 52, 1085⟩ * factor.units :=
    calc twoTo 2098 * unitsPerOne
      _ = twoTo 52 * twoTo 1085 * (twoTo 961 * unitsPerOne) := by
        rw [← twoTo_add, ← Nat.mul_assoc, ← twoTo_add, places]
      _ ≤ Magnitude.units ⟨twoTo 52, 1085⟩ * factor.units := by
        rw [Magnitude.units_mk]
        exact Nat.mul_le_mul_left _ above
  rw [mul, ofUnits_beyond _ unitsPerOne_pos beyond]
  rfl

end Binary64

namespace Numeral

theorem scaled_sized (negative : Bool) (digits : Nat) (exponent : Int) :
    (scaled negative digits exponent).Sized := by
  have zero : (Binary64.finite negative ⟨0, 0⟩).Sized := .finite (twoTo_pos 53) (Nat.zero_le _)
  simp only [scaled]
  split
  · exact zero
  split
  · exact .infinite
  split
  · exact zero
  split
  · exact Binary64.ofUnits_sized ..
  · exact Binary64.ofUnits_sized ..

theorem unsignedReal_sized {negative : Bool} {characters : List Char} {number : Binary64}
    (read : unsignedReal negative characters = some number) : number.Sized := by
  simp only [unsignedReal] at read
  split at read
  · cases read
    exact .infinite
  split at read
  · cases read
    exact .nan
  obtain ⟨-, read⟩ := Option.ite_none_left_eq_some.mp read
  obtain ⟨exponent, -, rfl⟩ := Option.map_eq_some_iff.mp read
  exact scaled_sized ..

theorem real_sized {characters : List Char} {number : Binary64}
    (read : real characters = some number) : number.Sized :=
  unsignedReal_sized read

end Numeral

namespace CycleCounter

open Binary64 (ConversionError)

variable {counter : CycleCounter}

theorem gigahertz_build {gigahertz : Binary64} (built : build gigahertz = .ok counter) :
    counter.gigahertz = gigahertz := by
  unfold build at built
  split at built
  · contradiction
  · cases built
    rfl

/-- Whatever the frequency is, no more than 1024 bits come out of a product. -/
theorem cycles_lt {ticks cycles : Int} (counted : counter.cycles ticks = .ok cycles) :
    cycles.natAbs < twoTo 1024 := by
  rw [CycleCounter.cycles] at counted
  cases converted : Binary64.ofInt ticks with
  | error error =>
      rw [converted] at counted
      contradiction
  | ok count =>
      rw [converted, ok_bind] at counted
      exact Binary64.truncate_lt (Binary64.mul_sized ..) counted

/-- What lies between two counts of cycles, in units of `2 ^ 20`. -/
theorem mebicycles_between {firstTicks lastTicks first last : Int}
    (firstCounted : counter.cycles firstTicks = .ok first)
    (lastCounted : counter.cycles lastTicks = .ok last) :
    ∃ negative magnitude, Binary64.quotient (last - first) (twoTo 20) =
      .ok (.finite negative magnitude) := by
  have firstBound := cycles_lt firstCounted
  have lastBound := cycles_lt lastCounted
  have twice : twoTo (1005 + 20) = twoTo 1024 * twoTo 1 := twoTo_add 1024 1
  have two : twoTo 1 = 2 := rfl
  have small : (last - first).natAbs < twoTo (1005 + 20) := by
    rw [twice, two]
    generalize twoTo 1024 = bound at firstBound lastBound ⊢
    omega
  exact Binary64.quotient_finite_places small (by decide)

theorem cycles_usable (sized : counter.gigahertz.Sized) (usable : counter.gigahertz.Usable)
    {ticks : Int} (natural : 0 ≤ ticks) (small : ticks < twoTo 63) :
    ∃ cycles, counter.cycles ticks = .ok cycles := by
  have bound : ticks.natAbs < twoTo 63 := by omega
  obtain ⟨negative, magnitude, converted, units⟩ := Binary64.ofInt_finite bound (by decide)
  obtain ⟨sign, product, multiplied⟩ := Binary64.mul_usable negative units sized usable
  rw [CycleCounter.cycles, converted, ok_bind, multiplied]
  exact ⟨_, rfl⟩

/-- A frequency that is built into a counter without being usable is too large for the largest
count, or it is no number. -/
theorem cycles_unusable (unusable : ¬ counter.gigahertz.Usable) :
    ∃ error, counter.cycles (twoTo 63 - 1 : Nat) = .error error := by
  obtain ⟨gigahertz, positive⟩ := counter
  rw [CycleCounter.cycles, Binary64.ofInt_greatest, ok_bind]
  cases gigahertz with
  | nan => exact ⟨.nanToInteger, rfl⟩
  | infinite negative =>
      have above : (Magnitude.mk (twoTo 52) 1085).units ≠ 0 :=
        Nat.ne_of_gt (Nat.mul_pos (twoTo_pos 52) (twoTo_pos 1085))
      simp only [Binary64.mul, if_neg above]
      exact ⟨.infinityToInteger, rfl⟩
  | finite negative factor =>
      simp only [Binary64.notPositive, Bool.or_eq_false_iff, beq_eq_false_iff_ne] at positive
      obtain ⟨rfl, nonzero⟩ := positive
      have above : twoTo 961 * unitsPerOne ≤ factor.units := by
        rw [← Nat.not_lt]
        exact fun below => unusable ⟨factor, rfl, Nat.pos_of_ne_zero nonzero, below⟩
      rw [Binary64.mul_greatest_infinite above]
      exact ⟨.infinityToInteger, rfl⟩

/-- The frequencies of the counters that turn every count of 63 bits into cycles. -/
theorem usable_iff {gigahertz : Binary64} (sized : gigahertz.Sized) :
    gigahertz.Usable ↔ ∃ counter, build gigahertz = .ok counter ∧
      ∀ ticks : Int, 0 ≤ ticks → ticks < twoTo 63 →
        ∃ cycles, counter.cycles ticks = .ok cycles := by
  constructor
  · intro usable
    exact ⟨_, build_positive usable.positive, fun ticks => cycles_usable sized usable⟩
  · rintro ⟨counter, built, counts⟩
    apply Classical.byContradiction
    intro unusable
    have same : counter.gigahertz = gigahertz := gigahertz_build built
    obtain ⟨error, failed⟩ := cycles_unusable (same ▸ unusable)
    obtain ⟨cycles, counted⟩ := counts (twoTo 63 - 1 : Nat) (by decide) (by decide)
    cases failed.symm.trans counted

end CycleCounter

end Argon2Workbench
