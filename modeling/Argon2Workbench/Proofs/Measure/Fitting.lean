import Argon2Workbench.Proofs.Context.Marshalling
import Argon2Workbench.Proofs.Measure.Coverage
import Mathlib.Tactic.SplitIfs

namespace Argon2Workbench

open CycleCounter (steady)
open Hash.Argon2 (Failure Status Variant)

namespace Context

variable {context : Context} {variant : Variant} {status : Status}

theorem MayReturn.narrow (returns : context.MayReturn status) :
    WordType.signed.holds 32 status = true := by
  unfold MayReturn at returns
  cases refusal : context.inputs.refusal? with
  | some refused =>
      rw [refusal] at returns
      subst returns
      unfold Hash.Argon2.Inputs.refusal? at refusal
      split_ifs at refusal <;> cases refusal <;> decide
  | none =>
      rw [refusal] at returns
      rcases returns with rfl | rfl <;> decide

theorem narrow_of_result [Machine] {recording : Bool} {allocator : Allocator}
    (returned : (context.invoke variant recording allocator).result = .ok status) :
    WordType.signed.holds 32 status = true := by
  cases fits : context.unmarshallable? with
  | some error =>
      simp only [invoke, fits] at returned
      contradiction
  | none =>
      cases (result_of_fits fits).symm.trans returned
      exact (context.mayReturn_status allocator).narrow

end Context

namespace Measure

variable {scenario : Scenario} {readings : Readings} {position : Position} {point : Nat × Int}
  {statusD statusI : Status} {failure : Failure}

structure Fits (point : Nat × Int) : Prop where
  threads : 1 ≤ point.2 ∧ point.2 ≤ maxThreads
  memory : point.1 < twoTo 32

section

variable (words : ∀ call, WordType.signed.holds 32 (scenario.primitive.statusOf call) = true)

include words

theorem narrow_of_answer [Machine] {call : Nat} {context : Context} {variant : Variant}
    {status : Status}
    (returned : (scenario.primitive.answer call context variant).result = .ok status) :
    WordType.signed.holds 32 status = true := by
  cases primitive : scenario.primitive with
  | real =>
      rw [primitive] at returned
      exact Context.narrow_of_result returned
  | scripted statuses =>
      have narrow := words call
      rw [primitive] at narrow returned
      cases returned
      exact narrow

/-- A status that is not the one of success is told by its text. -/
theorem error_of_firstFailed [Machine]
    (answered : Answered scenario.primitive position point statusD statusI)
    (failed : firstFailed? statusD statusI = some failure) : failure.error = .failed failure := by
  have narrowD := narrow_of_answer words answered.first
  have narrowI := narrow_of_answer words answered.second
  have representable : failure.representable = true := by
    unfold firstFailed? at failed
    split_ifs at failed
    · cases failed
      exact narrowD
    · cases failed
      exact narrowI
  rw [Failure.error, if_pos representable]

end

section

variable (power : ∃ exponent, point.1 = twoTo exponent)
  (threads : 1 ≤ point.2 ∧ point.2 ≤ maxThreads)

include power threads

/-- Only memory of more than 32 bits keeps a call from being made, and only the primitive itself
minds it. -/
theorem raised_wide [Machine] {call : Nat} {error : InvocationError}
    (raised : (scenario.primitive.answer call (contextAt point) .d).result = .error error) :
    scenario.primitive = .real ∧ twoTo 32 ≤ point.1 ∧ error = .range ⟨point.1, .unsigned⟩ := by
  have built := build_point power threads
  have constructible := Context.constructible_of_build built
  have lengths := Context.lengths_measurement built
  have memory : (contextAt point).memory = point.1 := Context.memory_measurement built
  cases primitive : scenario.primitive with
  | scripted statuses =>
      rw [primitive] at raised
      contradiction
  | real =>
      rw [primitive] at raised
      rcases Nat.lt_or_ge point.1 (twoTo 32) with narrow | wide
      · obtain ⟨status, returned, -⟩ :=
          constructible.result_narrow lengths (memory ▸ narrow) .d false {}
        cases returned.symm.trans raised
      · have refused := constructible.result_wide lengths (memory ▸ wide) .d false {}
        rw [memory] at refused
        cases refused.symm.trans raised
        exact ⟨rfl, wide, rfl⟩

/-- Only the memory of a point can have more digits than are written. -/
theorem unreported_wide (small : ∀ index, (readings.cycles index).natAbs ≤ twoTo 65)
    {error : Sample.Error}
    (unwritten : (readings.sample position point Status.ok Status.ok).report = .error error) :
    twoTo 32 ≤ point.1 := by
  apply Nat.le_of_not_lt
  intro narrow
  obtain ⟨exponent, costs⟩ := power
  have positive := twoTo_pos exponent
  have sizes : twoTo 32 < tenTo 10 ∧ maxThreads < tenTo 10 := by decide
  have moderate : (readings.sample position point Status.ok Status.ok).Moderate := by
    refine ⟨?_, ?_, ?_, show 1 < tenTo 10 by decide, small _, small _, small _⟩
    all_goals
      simp only [Readings.sample]
      omega
  obtain ⟨report, written⟩ := Sample.report_ok moderate
  cases written.symm.trans unwritten

end

end Measure

end Argon2Workbench
