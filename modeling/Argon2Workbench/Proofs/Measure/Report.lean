import Argon2Workbench.Proofs.Measure.Benchmark
import Argon2Workbench.Proofs.Number.Nearest
import Mathlib.Tactic.NormNum

/-! The rates in the report of a sample, as exact quotients that are rounded once.

A power of two goes into every count of 53 bits without a rest, in whichever steps it is divided
by, so the only rounding is the one to two decimals.
-/

namespace Argon2Workbench

open Hash.Argon2 (Variant)

namespace Sample

variable {sample : Sample} {exponent : Nat}

def rateLine (variant : Variant) (passes : Int) (mebibytes : Nat) (threads : Int)
    (perByte megacycles : String) : String :=
  s!"Argon2{variant.letter} {passes} pass(es)  {mebibytes} Mbytes {threads} threads:  " ++
    s!"{perByte} cpb {megacycles} Mcycles \n"

section

variable {variant : Variant} (short : (sample.cycles variant).natAbs < twoTo 53)

include short

/-- The second division loses nothing of what the first has left. -/
theorem cyclesPerByte_toHundredths (memory : sample.memory = (twoTo exponent : Nat))
    (few : exponent ≤ 31) :
    ∃ rate, sample.cyclesPerByte variant = .ok rate ∧
      Decimal.ToHundredths ((sample.cycles variant : ℚ) / (2 ^ exponent * 1024))
        (Decimal.fixed 2 rate) := by
  obtain ⟨quotient, divided, units⟩ := Binary64.quotient_exact short
    (Nat.le_trans few (by decide) : exponent ≤ 1074)
  have places : 1074 - exponent = 1074 - (exponent + 10) + 10 := by omega
  rw [places] at units
  obtain ⟨rate, scaled, exact⟩ := Binary64.scaleDown_exact
    (decide (sample.cycles variant < 0)) short (by omega) units
  have divisor : (2 : ℚ) ^ exponent * 1024 = 2 ^ (exponent + 10) := by
    rw [pow_add]
    norm_num
  refine ⟨_, by rw [cyclesPerByte, memory, divided, Except.map, scaled], ?_⟩
  rw [divisor]
  exact Decimal.quotient_toHundredths (by omega) exact

theorem megacycles_toHundredths :
    ∃ rate, sample.megacycles variant = .ok rate ∧
      Decimal.ToHundredths ((sample.cycles variant : ℚ) / 2 ^ 20) (Decimal.fixed 2 rate) := by
  obtain ⟨rate, divided, units⟩ := Binary64.quotient_exact short (by decide : 20 ≤ 1074)
  exact ⟨_, divided, Decimal.quotient_toHundredths (by decide) units⟩

end

theorem written_mebibytes (memory : sample.memory = (twoTo exponent : Nat)) (few : exponent ≤ 31) :
    Numeral.written (sample.memory.fdiv 1024) = .ok (toString (2 ^ exponent / 1024)) := by
  have size : twoTo exponent < tenTo 10 :=
    Nat.lt_of_le_of_lt (twoTo_le_twoTo few) (by decide)
  have quotient : sample.memory.fdiv 1024 = (2 ^ exponent / 1024 : Nat) := by
    rw [memory, Int.fdiv_eq_ediv_of_nonneg _ (by decide)]
    rfl
  rw [quotient, Numeral.written_of_lt]
  · rfl
  · exact Nat.lt_of_le_of_lt (Nat.div_le_self ..) size

theorem heading_eq (memory : sample.memory = (twoTo exponent : Nat)) (few : exponent ≤ 31) :
    sample.heading =
      if Numeral.isWritable sample.passes && Numeral.isWritable sample.threads then
        .ok (s!"{sample.passes} pass(es)  {2 ^ exponent / 1024} Mbytes " ++
          s!"{sample.threads} threads:  ")
      else .error {} := by
  -- The memory is always written, so the numbers beside it decide.
  rw [heading, written_mebibytes memory few]
  cases passes : Numeral.isWritable sample.passes with
  | false =>
      rw [Numeral.written, passes]
      rfl
  | true =>
      cases threads : Numeral.isWritable sample.threads with
      | false =>
          rw [Numeral.written, passes, Numeral.written, threads]
          rfl
      | true =>
          rw [Numeral.written, passes, Numeral.written, threads]
          simp only [if_true, Bool.and_self, ok_bind, String.append_assoc]
          rfl

theorem reportLine_eq (variant : Variant) (passes : Int) (mebibytes : Nat) (threads : Int)
    (perByte megacycles : Binary64) :
    reportLine variant
        (s!"{passes} pass(es)  {mebibytes} Mbytes " ++ s!"{threads} threads:  ") perByte
        megacycles =
      rateLine variant passes mebibytes threads (Decimal.fixed 2 perByte)
        (Decimal.fixed 2 megacycles) := by
  have shown (text : String) : toString text = text := rfl
  simp only [reportLine, rateLine, shown, String.append_assoc]

/-- The report of a sample whose memory is a power of two holds, for each of the variants, the
cycles for each byte and the megacycles as exact quotients that are rounded once. There is no
report if the passes or the threads have more digits than are written. -/
theorem report_rounds_once (sample : Sample) (exponent : Nat)
    (memory : sample.memory = (twoTo exponent : Nat)) (few : exponent ≤ 31)
    (short : ∀ variant, (sample.cycles variant).natAbs < twoTo 53) :
    ∃ perByte megacycles : Variant → String,
      (∀ variant,
        Decimal.ToHundredths ((sample.cycles variant : ℚ) / (2 ^ exponent * 1024))
          (perByte variant) ∧
        Decimal.ToHundredths ((sample.cycles variant : ℚ) / 2 ^ 20) (megacycles variant)) ∧
      let line := fun variant => rateLine variant sample.passes (2 ^ exponent / 1024)
        sample.threads (perByte variant) (megacycles variant)
      sample.report =
        if Numeral.isWritable sample.passes && Numeral.isWritable sample.threads then
          .ok (line .d ++ line .i ++ s!"{Decimal.fixed 4 sample.seconds} seconds\n\n")
        else .error (.digits {}) := by
  choose perByte perByteRated perByteRounded using fun variant =>
    cyclesPerByte_toHundredths (short variant) memory few
  choose megacycles megacyclesRated megacyclesRounded using fun variant =>
    megacycles_toHundredths (short variant)
  refine ⟨fun variant => Decimal.fixed 2 (perByte variant),
    fun variant => Decimal.fixed 2 (megacycles variant),
    fun variant => ⟨perByteRounded variant, megacyclesRounded variant⟩, ?_⟩
  simp only [← reportLine_eq]
  rw [report, perByteRated, perByteRated, megacyclesRated, megacyclesRated,
    heading_eq memory few]
  split <;> rfl

/-- A rate half way between two texts, and one below zero that is written as zero. -/
def halfway : Sample :=
  { memory := 4096, threads := 2, passes := 1
    startCycles := 0, middleCycles := 1572864, stopCycles := 1572863
    startTime := .zero, stopTime := .zero }

theorem halfway_report :
    (∀ variant, (halfway.cycles variant).natAbs < twoTo 53) ∧
    halfway.report = .ok
      ("Argon2d 1 pass(es)  4 Mbytes 2 threads:  0.38 cpb 1.50 Mcycles \n" ++
        "Argon2i 1 pass(es)  4 Mbytes 2 threads:  -0.00 cpb -0.00 Mcycles \n" ++
        "0.0000 seconds\n\n") := by
  have short (variant : Variant) : (halfway.cycles variant).natAbs < twoTo 53 := by
    cases variant <;> decide
  obtain ⟨perByte, megacycles, rounded, reported⟩ :=
    report_rounds_once halfway 12 rfl (by decide) short
  have up : Decimal.ToHundredths ((halfway.cycles .d : ℚ) / (2 ^ 12 * 1024))
      (Decimal.hundredths false 38) :=
    .of_nearest (by norm_num [halfway, cycles])
      ⟨by norm_num [halfway, cycles], fun _ => by decide⟩
  have whole : Decimal.ToHundredths ((halfway.cycles .d : ℚ) / 2 ^ 20)
      (Decimal.hundredths false 150) :=
    .of_nearest (by norm_num [halfway, cycles])
      ⟨by norm_num [halfway, cycles], fun _ => by decide⟩
  have signed : Decimal.ToHundredths ((halfway.cycles .i : ℚ) / (2 ^ 12 * 1024))
      (Decimal.hundredths true 0) :=
    .of_nearest (by norm_num [halfway, cycles])
      ⟨by norm_num [halfway, cycles], fun _ => by decide⟩
  have signedToo : Decimal.ToHundredths ((halfway.cycles .i : ℚ) / 2 ^ 20)
      (Decimal.hundredths true 0) :=
    .of_nearest (by norm_num [halfway, cycles])
      ⟨by norm_num [halfway, cycles], fun _ => by decide⟩
  refine ⟨short, reported.trans ?_⟩
  dsimp only
  rw [(rounded .d).1.unique up, (rounded .d).2.unique whole, (rounded .i).1.unique signed,
    (rounded .i).2.unique signedToo]
  decide +kernel

end Sample

end Argon2Workbench
