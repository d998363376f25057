import Argon2Workbench.Measure.Grid
import Argon2Workbench.Proofs.Context.Record

/-! Which contexts can be handed over to the primitive.

Lanes, threads and passes of a context are bounded far below 32 bits when it is built. Its
memory is only known to be a power of two, so it is the one number that may be too wide.
-/

namespace Argon2Workbench

open Hash.Argon2 (Status Variant)

namespace Context

variable {context : Context}

/-- Raising the memory to the least that the lanes need does not make it too wide. -/
theorem Bounded.effectiveMemory (bounded : context.Bounded) :
    (context.memory < twoTo 32 → context.effectiveMemory < twoTo 32) ∧
      (twoTo 32 ≤ context.memory → context.effectiveMemory = context.memory) := by
  have lanes := bounded.lanes.2
  have sizes : maxLanes = 16777215 ∧ twoTo 32 = 4294967296 ∧ minBlocksPerLane = 8 := by decide
  simp only [Context.effectiveMemory, sizes]
  omega

/-- Of all that is handed over the memory is the first to be refused. -/
theorem Bounded.unmarshallable?_wide (bounded : context.Bounded)
    (lengths : ∀ length ∈ context.lengths, length < twoTo 32) (wide : twoTo 32 ≤ context.memory) :
    context.unmarshallable? = some ⟨context.memory, .unsigned⟩ := by
  have passes := bounded.passes
  have sizes : maxPasses = 16777215 ∧ twoTo 32 = 4294967296 := by decide
  have split : context.marshalled = context.lengths ++
      context.passes :: context.effectiveMemory :: [context.lanes, context.threads] := rfl
  have narrow : context.lengths.find? (fun value => decide (twoTo 32 ≤ value)) = none := by
    rw [List.find?_eq_none]
    intro length member
    simpa using lengths length member
  have few : ¬ twoTo 32 ≤ context.passes := by omega
  rw [unmarshallable?, split, List.find?_append, narrow, Option.none_or,
    List.find?_cons_of_neg (by simpa using few), bounded.effectiveMemory.2 wide,
    List.find?_cons_of_pos (by simpa using wide)]
  rfl

def MayReturn (context : Context) (status : Status) : Prop :=
  match context.inputs.refusal? with
  | some refused => status = refused
  | none => status = Status.ok ∨ status = Status.allocationFailed

theorem mayReturn_status [Machine] (context : Context) (allocator : Allocator) :
    context.MayReturn (context.status allocator).2.1 := by
  unfold MayReturn
  cases refusal : context.inputs.refusal? with
  | some refused => exact status_refused refusal
  | none => exact status_unrefused refusal

theorem Constructible.result_narrow [Machine] (constructible : context.Constructible)
    (lengths : ∀ length ∈ context.lengths, length < twoTo 32) (narrow : context.memory < twoTo 32)
    (variant : Variant) (recording : Bool) (allocator : Allocator) :
    ∃ status, (context.invoke variant recording allocator).result = .ok status ∧
      context.MayReturn status := by
  have fits := constructible.marshallable lengths (constructible.bounded.effectiveMemory.1 narrow)
  exact ⟨_, result_of_fits fits, context.mayReturn_status allocator⟩

theorem Constructible.result_wide [Machine] (constructible : context.Constructible)
    (lengths : ∀ length ∈ context.lengths, length < twoTo 32) (wide : twoTo 32 ≤ context.memory)
    (variant : Variant) (recording : Bool) (allocator : Allocator) :
    (context.invoke variant recording allocator).result =
      .error (.range ⟨context.memory, .unsigned⟩) := by
  simp only [invoke, constructible.bounded.unmarshallable?_wide lengths wide]

theorem constructible_of_build [Machine] {request : Request} (built : request.build = .ok context) :
    context.Constructible := by
  obtain ⟨-, rfl⟩ := Request.violation?_of_build built
  exact ⟨request, built⟩

theorem lengths_measurement [Machine] {memory threads : Int}
    (built : (Request.measurement memory threads).build = .ok context) :
    ∀ length ∈ context.lengths, length < twoTo 32 := by
  obtain ⟨-, rfl⟩ := Request.violation?_of_build built
  change ∀ length ∈ [16, 16, 16, 0, 0], length < twoTo 32
  decide

theorem memory_measurement [Machine] {memory : Nat} {threads : Int}
    (built : (Request.measurement memory threads).build = .ok context) :
    context.memory = memory := by
  obtain ⟨-, rfl⟩ := Request.violation?_of_build built
  exact Int.toNat_natCast memory

/-- A call on a context that was built returns a status if the memory fits 32 bits: the
refusal of its inputs, or else success or the want of memory. With more memory there is no
status, for the call is not made. At a point of a grid this hangs on its memory cost. -/
theorem call_returns_iff_narrow [Machine] (variant : Variant) (recording : Bool)
    (allocator : Allocator) :
    (∀ context : Context, context.Constructible →
      (∀ length ∈ context.lengths, length < twoTo 32) →
        (context.memory < twoTo 32 →
          ∃ status, (context.invoke variant recording allocator).result = .ok status ∧
            context.MayReturn status) ∧
        (twoTo 32 ≤ context.memory →
          (context.invoke variant recording allocator).result =
            .error (.range ⟨context.memory, .unsigned⟩))) ∧
    ∀ (low high : Int) (threads : List Int) (grid : Grid),
      Grid.build low high threads = .ok grid → ∀ point ∈ grid.points, ∀ context,
      (Request.measurement point.1 point.2).build = .ok context →
        ((∃ status, (context.invoke variant recording allocator).result = .ok status) ↔
          point.1 < twoTo 32) := by
  constructor
  · intro context constructible lengths
    exact ⟨fun narrow => constructible.result_narrow lengths narrow variant recording allocator,
      fun wide => constructible.result_wide lengths wide variant recording allocator⟩
  intro low high threads grid _ point _ context built
  have constructible := constructible_of_build built
  have lengths := lengths_measurement built
  rw [← memory_measurement built]
  constructor
  · rintro ⟨status, returned⟩
    apply Nat.lt_of_not_le
    intro wide
    rw [constructible.result_wide lengths wide] at returned
    contradiction
  · intro narrow
    obtain ⟨status, returned, -⟩ :=
      constructible.result_narrow lengths narrow variant recording allocator
    exact ⟨status, returned⟩

attribute [local instance] Machine.workstation

/-- The greatest memory cost that is returned from, at a point of its grid. -/
theorem widest_point_returns :
    ((Request.measurement (twoTo 31 : Nat) 1).build =
        .ok (Request.measurement (twoTo 31 : Nat) 1).context) ∧
    (∃ status, ((Request.measurement (twoTo 31 : Nat) 1).context.invoke .i false {}).result =
      .ok status ∧ (Request.measurement (twoTo 31 : Nat) 1).context.MayReturn status) ∧
    ∃ grid status, Grid.build 31 31 [1] = .ok grid ∧ (twoTo 31, 1) ∈ grid.points ∧
      ((Request.measurement (twoTo 31 : Nat) 1).context.invoke .d true {}).result = .ok status := by
  have built : (Request.measurement (twoTo 31 : Nat) 1).build =
      .ok (Request.measurement (twoTo 31 : Nat) 1).context :=
    Request.build_measurement_of_threads (by decide)
  obtain ⟨general, -⟩ := call_returns_iff_narrow .i false {}
  have returned := (general _ (constructible_of_build built) (lengths_measurement built)).1
    (show twoTo 31 < twoTo 32 by decide)
  obtain ⟨-, grids⟩ := call_returns_iff_narrow .d true {}
  have member : (twoTo 31, 1) ∈ (Grid.ofPowers 31 31 [1]).points := by decide
  obtain ⟨status, again⟩ := (grids 31 31 [1] _ rfl _ member _ built).2 (by decide)
  exact ⟨built, returned, _, status, rfl, member, again⟩

/-- A point of a grid whose context is built and cannot be called: twice as much memory. -/
theorem wide_point_raises :
    ∃ grid context, Grid.build 32 32 [1] = .ok grid ∧ (twoTo 32, 1) ∈ grid.points ∧
      (Request.measurement (twoTo 32 : Nat) 1).build = .ok context ∧
      (∀ length ∈ context.lengths, length < twoTo 32) ∧ context.customAllocator = false ∧
      (context.invoke .d false {}).result = .error (.range ⟨twoTo 32, .unsigned⟩) := by
  have member : (twoTo 32, 1) ∈ (Grid.ofPowers 32 32 [1]).points := by decide
  have built : (Request.measurement (twoTo 32 : Nat) 1).build =
      .ok (Request.measurement (twoTo 32 : Nat) 1).context :=
    Request.build_measurement_of_threads (by decide)
  exact ⟨_, _, rfl, member, built, lengths_measurement built, rfl, rfl⟩

end Context

end Argon2Workbench
