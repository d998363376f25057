import Argon2Workbench.Proofs.Measure.Protocol

namespace Argon2Workbench

open Hash.Argon2 (Status Variant)

namespace Grid

variable {low high : Int} {threads : List Int} {grid : Grid}
  (built : build low high threads = .ok grid)

include built

theorem points_of_build :
    grid.points = (List.range' low.toNat (high.toNat + 1 - low.toNat)).flatMap fun exponent =>
      threads.map (twoTo exponent, ·) := by
  obtain ⟨-, -, rfl⟩ := ofPowers_of_build built
  rw [points, ofPowers, List.flatMap_map]

theorem size_eq_zero_iff : grid.size = 0 ↔ threads = [] := by
  obtain ⟨-, ordered, rfl⟩ := ofPowers_of_build built
  have rows : (ofPowers low.toNat high.toNat threads).memoryCosts.length ≠ 0 := by
    rw [ofPowers, List.length_map, List.length_range']
    omega
  rw [size, Nat.mul_eq_zero, or_iff_right rows, List.length_eq_zero_iff]
  rfl

theorem chosen_of_threads (given : threads ≠ []) : chosen (some grid) = grid :=
  chosen_of_nonempty fun empty => given ((size_eq_zero_iff built).mp empty)

theorem chosen_of_no_threads (none : threads = []) : chosen (some grid) = standard :=
  if_pos ((size_eq_zero_iff built).mpr none)

end Grid

namespace Measure

variable {scenario after : Scenario} {counter : CycleCounter} {readings : Readings}
  {reporting : Bool}

def measured? : Event → Option (Nat × Int × Variant)
  | .call context variant => some (context.memory, context.threads, variant)
  | _ => none

theorem measured?_steps [Machine] (primitive : Primitive) (start : Position) {point : Nat × Int}
    (threads : 0 ≤ point.2) :
    (steps primitive start point).filterMap measured? =
      [(point.1, point.2, .d), (point.1, point.2, .i)] := by
  have count : (point.2.toNat : Int) = point.2 := Int.toNat_of_nonneg threads
  change [(point.1, (point.2.toNat : Int), Variant.d), (point.1, (point.2.toNat : Int), .i)] = _
  rw [count]

/-- Nothing is called but the two variants, at each point in its turn. -/
theorem measured?_trace [Machine] (primitive : Primitive) (start : Position)
    (points : List (Nat × Int))
    (threads : ∀ point ∈ points, 0 ≤ point.2) :
    (trace primitive start points).filterMap measured? =
      points.flatMap fun point => [(point.1, point.2, .d), (point.1, point.2, .i)] := by
  induction points using List.reverseRecOn with
  | nil => rfl
  | append_singleton points point ih =>
      rw [trace_snoc, List.filterMap_append, measured?_steps _ _ (threads point (by simp)),
        ih fun other member => threads other (List.mem_append_left _ member),
        List.flatMap_append, List.flatMap_singleton]

theorem length_samples (readings : Readings) (start : Position) (points : List (Nat × Int)) :
    (readings.samples start points).length = points.length := by
  rw [Readings.samples, List.length_map, List.length_zipIdx]

theorem points_of_samples (readings : Readings) (start : Position) (points : List (Nat × Int)) :
    (readings.samples start points).map (fun sample => (sample.memory, sample.threads)) =
      points.map fun point => ((point.1 : Int), point.2) := by
  induction points using List.reverseRecOn with
  | nil => rfl
  | append_singleton points point ih =>
      rw [samples_snoc, List.map_append, ih, List.map_append]
      rfl

/-- A benchmark at whose points nothing goes wrong returns a sample of every one of them in their
order, and calls the primitive twice at each and nowhere else. These are the points of the grid
that it is given if that has a thread count, and otherwise those of the standard grid. -/
theorem benchmark_covers_chosen [Machine] (scenario : Scenario) {low high : Int}
    {threads : List Int}
    {grid : Grid} (built : Grid.build low high threads = .ok grid) (counter : CycleCounter)
    (readings : Readings) (reporting : Bool)
    (shown : Shown scenario counter readings scenario.position (Grid.chosen (some grid)).size)
    (passes : ∀ point ∈ (Grid.chosen (some grid)).points.zipIdx,
      Passes scenario readings reporting (scenario.position.after point.2) point.1) :
    (∃ samples after happened,
      scenario.run (benchmark (some grid) counter reporting) = (.ok samples, after) ∧
      samples.length = (Grid.chosen (some grid)).size ∧
      samples.map (fun sample => (sample.memory, sample.threads)) =
        (Grid.chosen (some grid)).points.map (fun point => ((point.1 : Int), point.2)) ∧
      after.calls = scenario.calls + 2 * (Grid.chosen (some grid)).size ∧
      after.events = scenario.events ++ happened ∧
      happened.filterMap measured? = (Grid.chosen (some grid)).points.flatMap fun point =>
        [(point.1, point.2, .d), (point.1, point.2, .i)]) ∧
    (threads ≠ [] → Grid.chosen (some grid) = grid) ∧
    (threads = [] → Grid.chosen (some grid) = .standard) ∧
    grid.points = (List.range' low.toNat (high.toNat + 1 - low.toNat)).flatMap fun exponent =>
      threads.map (twoTo exponent, ·) := by
  refine ⟨?_, Grid.chosen_of_threads built, Grid.chosen_of_no_threads built,
    Grid.points_of_build built⟩
  rw [← Grid.length_points] at shown ⊢
  obtain ⟨after, leaves, ran⟩ :=
    run_benchmark_passed (Grid.exponent_of_mem_chosen built) shown passes rfl
  obtain ⟨_, _, proceeds⟩ := leaves.proceeds
  have counts : ∀ point ∈ (Grid.chosen (some grid)).points, 0 ≤ point.2 := by
    intro point member
    obtain ⟨index, found⟩ := List.mem_iff_getElem?.mp member
    have least : 1 ≤ point.2 :=
      (passes (point, index) (List.mk_mem_zipIdx_iff_getElem?.mpr found)).threads.1
    omega
  have events := proceeds.events
  rw [List.append_nil] at events
  exact ⟨_, after, _, ran, length_samples _ _ _, points_of_samples _ _ _,
    congrArg Position.calls leaves.position, events, measured?_trace _ _ _ counts⟩

attribute [local instance] Machine.workstation

/-- Thread counts in no order, one of them twice. -/
theorem coverage_of_unordered_threads :
    ∃ grid samples after happened, Grid.build 4 5 [2, 1, 1] = .ok grid ∧
      (unchanging fun _ => Status.ok).run (benchmark (some grid) .steady true) =
        (.ok samples, after) ∧
      samples.map (fun sample => (sample.memory, sample.threads)) =
        [(16, 2), (16, 1), (16, 1), (32, 2), (32, 1), (32, 1)] ∧
      after.calls = 12 ∧ after.events = happened ∧
      happened.filterMap measured? =
        [(16, 2, .d), (16, 2, .i), (16, 1, .d), (16, 1, .i), (16, 1, .d), (16, 1, .i),
         (32, 2, .d), (32, 2, .i), (32, 1, .d), (32, 1, .i), (32, 1, .d), (32, 1, .i)] := by
  have built : Grid.build 4 5 [2, 1, 1] = .ok (Grid.ofPowers 4 5 [2, 1, 1]) := rfl
  obtain ⟨⟨samples, after, happened, ran, -, sampled, calls, events, measured⟩, -⟩ :=
    benchmark_covers_chosen (unchanging fun _ => Status.ok) built .steady .unchanging true
      (shown_unchanging _ _ _) (passes_unchanging_all _ _ (by decide))
  exact ⟨_, samples, after, happened, built, ran, sampled, calls, events, measured⟩

/-- A grid without a thread count has no points, and yet there are samples. -/
theorem points_without_threads :
    ∃ grid samples after, Grid.build 4 4 [] = .ok grid ∧ grid.size = 0 ∧
      (unchanging fun _ => Status.ok).run (benchmark (some grid) .steady false) =
        (.ok samples, after) ∧
      samples.length = 78 ∧ after.calls = 156 := by
  have built : Grid.build 4 4 [] = .ok (Grid.ofPowers 4 4 []) := rfl
  have chosen := Grid.chosen_of_no_threads built rfl
  obtain ⟨after, leaves, ran⟩ :=
    run_benchmark_passed (Grid.exponent_of_mem_chosen built) (shown_unchanging _ _ _)
      (passes_unchanging_all false ⟨0, 0, 0⟩ (by rw [chosen]; decide)) rfl
  refine ⟨_, _, after, built, rfl, ran, ?_, ?_⟩
  · rw [length_samples, chosen]
    rfl
  · have calls := congrArg Position.calls leaves.position
    rw [chosen] at calls
    exact calls

end Measure

end Argon2Workbench
