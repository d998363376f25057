import Argon2Workbench.Context.Preset
import Argon2Workbench.Proofs.Context.Invocation
import Argon2Workbench.Proofs.Number.Rounding

namespace Argon2Workbench

open Hash.Argon2 (Inputs Status Variant)

theorem isPowerOfTwo_twoTo (exponent : Nat) : isPowerOfTwo (twoTo exponent : Nat) = true := by
  have positive : (0 : Int) < (twoTo exponent : Nat) := by
    have := twoTo_pos exponent
    omega
  have masked : twoTo exponent &&& (twoTo exponent - 1) = 0 := by
    have power : twoTo exponent = 2 ^ exponent := rfl
    rw [power, Nat.and_two_pow_sub_one_eq_mod, Nat.mod_self]
  simp only [isPowerOfTwo, Int.toNat_natCast, masked, positive]
  rfl

/-- Rounding down to whole segments takes nothing but memory away. -/
theorem Hash.Argon2.Inputs.workingBytes_le (inputs : Inputs) :
    inputs.workingBytes ≤ 1024 * inputs.memory :=
  Nat.mul_le_mul_left 1024 (Nat.mul_div_le inputs.memory (4 * inputs.lanes))

namespace Request

theorem violation?_eq_none {request : Request} (output : 0 < request.outputLength)
    (lanes : 1 ≤ request.lanes ∧ request.lanes ≤ maxLanes)
    (threads : 1 ≤ request.threads ∧ request.threads ≤ maxThreads)
    (memory : isPowerOfTwo request.memory = true)
    (passes : 0 ≤ request.passes ∧ request.passes ≤ maxPasses)
    (paired : request.callbacks = .neither ∨ request.callbacks = .both) :
    request.violation? = none := by
  have unpaired : ¬ (request.callbacks = .allocateOnly ∨ request.callbacks = .freeOnly) := by
    rcases paired with same | same <;> simp [same]
  rw [violation?, if_neg (by omega), if_neg (not_not_intro lanes), if_neg (not_not_intro threads),
    if_neg (by simp [memory]), if_neg (by omega), if_neg unpaired]

theorem build_ok [Machine] {request : Request} (fits : request.violation? = none)
    (short : request.outputLength.toNat < Machine.memory) :
    request.build = .ok request.context := by
  have narrow : ¬ twoTo 63 ≤ request.outputLength.toNat := by
    have counted := Machine.counted
    omega
  have found : BufferError.ofLength? request.outputLength.toNat = none := by
    rw [BufferError.ofLength?, if_neg narrow, if_neg (by omega)]
  simp only [build, fits, found]

section

variable {passes exponent lanes threads : Nat} {password : Bytes}

theorem build_run [Machine] (passesFit : passes ≤ maxPasses)
    (lanesFit : 1 ≤ lanes ∧ lanes ≤ maxLanes)
    (threadsFit : 1 ≤ threads ∧ threads ≤ maxThreads) :
    (run passes (twoTo exponent) lanes threads password).build =
      .ok (run passes (twoTo exponent) lanes threads password).context := by
  refine build_ok (violation?_eq_none (show (0 : Int) < 32 by decide) ?_ ?_
    (isPowerOfTwo_twoTo exponent) ?_ (.inl rfl)) (Machine.found (show 32 ≤ twoTo 32 by decide))
  · simp only [run]
    omega
  · simp only [run]
    omega
  · simp only [run]
    omega

theorem build_run_no_lanes [Machine] (passes memory threads : Nat) (password : Bytes) :
    (run passes memory 0 threads password).build = .error (.violation (.lanes 0)) := by
  have violated : (run passes memory 0 threads password).violation? = some (.lanes 0) := by
    simp [violation?, run]
  rw [build, violated]

theorem build_run_no_threads [Machine] (memory : Nat) (lanesFit : 1 ≤ lanes ∧ lanes ≤ maxLanes) :
    (run passes memory lanes 0 password).build = .error (.violation (.threads 0)) := by
  have inside : 1 ≤ (lanes : Int) ∧ (lanes : Int) ≤ maxLanes := by omega
  have violated : (run passes memory lanes 0 password).violation? = some (.threads 0) := by
    simp [violation?, run, inside]
  rw [build, violated]

theorem run_marshalled (passesFit : passes ≤ maxPasses) (exponentFit : exponent < 32)
    (lanesFit : lanes ≤ maxLanes) (threadsFit : threads ≤ maxThreads) :
    ∀ value ∈ (run passes (twoTo exponent) lanes threads password).context.marshalled,
      value < twoTo 32 ∨ value = password.length := by
  intro value member
  have memoryFit := twoTo_lt_twoTo exponentFit
  have sizes : maxPasses = 16777215 ∧ maxLanes = 16777215 ∧ maxThreads = 16777215 ∧
      twoTo 32 = 4294967296 := by decide
  change value ∈ [32, password.length, 16, 0, 0, passes, max (twoTo exponent) (8 * lanes), lanes,
    threads] at member
  simp only [List.mem_cons, List.not_mem_nil, or_false] at member
  omega

theorem run_unmarshallable? (passesFit : passes ≤ maxPasses) (exponentFit : exponent < 32)
    (lanesFit : lanes ≤ maxLanes) (threadsFit : threads ≤ maxThreads)
    (short : password.length < twoTo 32) :
    (run passes (twoTo exponent) lanes threads password).context.unmarshallable? = none := by
  rw [Context.unmarshallable?_eq_none_iff]
  intro value member
  rcases run_marshalled passesFit exponentFit lanesFit threadsFit value member with fits | rfl
  · exact fits
  · exact short

theorem run_outcome [Machine] (memory : Nat) :
    (run passes memory lanes threads password).context.inputs.outcome =
      if passes = 0 then Status.passesTooFew
      else if (run passes memory lanes threads password).context.inputs.workingBytes < Machine.memory
      then Status.ok
      else Status.allocationFailed := by
  by_cases idle : passes = 0
  · subst idle
    rfl
  · rw [if_neg idle]
    exact Inputs.outcome_of_fits _ (show 4 ≤ 32 by decide) (show 8 ≤ 16 by decide)
      (show 1 ≤ passes by omega)

end

theorem build_testVector [Machine] :
    (testVector .neither).build = .ok (testVector .neither).context :=
  build_ok rfl (Machine.found (show 32 ≤ twoTo 32 by decide))

theorem testVector_unmarshallable? : (testVector .neither).context.unmarshallable? = none := by
  decide

theorem testVector_outcome [Machine] :
    (testVector .neither).context.inputs.outcome = Status.ok := by
  have found : (testVector .neither).context.inputs.workingBytes < Machine.memory :=
    Machine.found (show 32768 ≤ twoTo 32 by decide)
  rw [Inputs.outcome_of_fits _ (by decide) (by decide) (by decide), if_pos found]

section

variable {exponent lanes : Nat}

theorem build_measurement [Machine] (lanesFit : 1 ≤ lanes ∧ lanes ≤ maxLanes) :
    (measurement (twoTo exponent : Nat) lanes).build =
      .ok (measurement (twoTo exponent : Nat) lanes).context := by
  refine build_ok (violation?_eq_none (show (0 : Int) < 16 by decide) ?_ ?_
    (isPowerOfTwo_twoTo exponent) (show (0 : Int) ≤ 1 ∧ (1 : Int) ≤ maxPasses by decide)
    (.inl rfl)) (Machine.found (show 16 ≤ twoTo 32 by decide))
  · simp only [measurement]
    omega
  · have same : maxThreads = maxLanes := rfl
    simp only [measurement]
    omega

theorem build_measurement_of_threads [Machine] {threads : Int}
    (threadsFit : 1 ≤ threads ∧ threads ≤ maxThreads) :
    (measurement (twoTo exponent : Nat) threads).build =
      .ok (measurement (twoTo exponent : Nat) threads).context := by
  obtain ⟨lanes, rfl⟩ := Int.eq_ofNat_of_zero_le (show 0 ≤ threads by omega)
  have same : maxThreads = maxLanes := rfl
  exact build_measurement (by omega)

/-- A thread count that is out of range is turned down as a number of lanes. -/
theorem build_measurement_outside [Machine] {memory threads : Int}
    (outside : ¬ (1 ≤ threads ∧ threads ≤ maxThreads)) :
    (measurement memory threads).build = .error (.violation (.lanes threads)) := by
  have refused : (measurement memory threads).violation? = some (.lanes threads) := by
    have output : ¬ (measurement memory threads).outputLength ≤ 0 := show ¬ (16 : Int) ≤ 0 by decide
    rw [violation?, if_neg output]
    exact if_pos outside
  rw [build, refused]

theorem measurement_unmarshallable? (exponentFit : exponent < 32) (lanesFit : lanes ≤ maxLanes) :
    (measurement (twoTo exponent : Nat) lanes).context.unmarshallable? = none := by
  have memoryFit := twoTo_lt_twoTo exponentFit
  have word : twoTo 32 = 4294967296 := by decide
  have bound : maxLanes = 16777215 := rfl
  rw [Context.unmarshallable?_eq_none_iff]
  intro value member
  change value ∈ [16, 16, 16, 0, 0, 1, max (twoTo exponent) (8 * lanes), lanes, lanes] at member
  simp only [List.mem_cons, List.not_mem_nil, or_false] at member
  omega

/-- Up to four gibibytes there is memory for a point. -/
theorem measurement_outcome [Machine] (exponentFit : exponent ≤ 22) (lanesFit : lanes ≤ twoTo 19) :
    (measurement (twoTo exponent : Nat) lanes).context.inputs.outcome = Status.ok := by
  have working := (measurement (twoTo exponent : Nat) lanes).context.inputs.workingBytes_le
  change _ ≤ 1024 * max (twoTo exponent) (8 * lanes) at working
  have memoryFit := twoTo_le_twoTo exponentFit
  have sizes : twoTo 19 = 524288 ∧ twoTo 22 = 4194304 ∧ twoTo 32 = 4294967296 := by decide
  have found : (measurement (twoTo exponent : Nat) lanes).context.inputs.workingBytes <
      Machine.memory := Machine.found (by omega)
  have fits := (measurement (twoTo exponent : Nat) lanes).context.inputs.outcome_of_fits
    (show 4 ≤ 16 by decide) (show 8 ≤ 16 by decide) (show 1 ≤ 1 by decide)
  rw [fits, if_pos found]

end

end Request

end Argon2Workbench
