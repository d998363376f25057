import Argon2Workbench.Proofs.Measure.Benchmark
import Argon2Workbench.Proofs.Measure.Course

namespace Argon2Workbench

open Hash.Argon2 (Failure Status Variant)

namespace Measure

variable {scenario : Scenario} {counter : CycleCounter} {readings : Readings} {reporting : Bool}
  {start : Position} {point : Nat × Int} {fault : Fault} {last : List Event}

section

variable [Machine] {grid : Option Grid} {passed : List (Nat × Int)}
  (powers : ∀ point ∈ (Grid.chosen grid).points, ∃ exponent, point.1 = twoTo exponent)
  (shown : Shown scenario counter readings scenario.position passed.length)
  (passes : ∀ point ∈ passed.zipIdx, Passes scenario readings reporting
    (scenario.position.after point.2) point.1)

include powers shown passes

theorem run_benchmark_passed (every : (Grid.chosen grid).points = passed) :
    ∃ after, Leaves scenario after readings reporting passed [] ∧
      scenario.run (benchmark grid counter reporting) =
        (.ok (readings.samples scenario.position passed), after) := by
  obtain ⟨between, logged, started⟩ := run_benchmark_started scenario grid counter reporting
  have place : between.position = scenario.position := logged.position
  rw [every] at powers started
  rw [← place] at shown passes ⊢
  obtain ⟨after, leaves, ran⟩ := run_points_passed passed powers (shown.later logged)
    (fun point member => (passes point member).later logged)
  exact ⟨after, leaves.behind logged, started.trans ran⟩

theorem run_benchmark_stopped {later : List (Nat × Int)}
    (split : (Grid.chosen grid).points = passed ++ point :: later)
    (stops : Stops scenario counter readings reporting (scenario.position.after passed.length)
      point fault last) :
    ∃ after, Leaves scenario after readings reporting passed last ∧
      scenario.run (benchmark grid counter reporting) = (.error fault, after) := by
  obtain ⟨between, logged, started⟩ := run_benchmark_started scenario grid counter reporting
  have place : between.position = scenario.position := logged.position
  rw [split] at powers started
  rw [← place] at shown passes stops
  obtain ⟨after, leaves, ran⟩ := run_points_stopped later powers (shown.later logged)
    (fun point member => (passes point member).later logged) (stops.later logged)
  exact ⟨after, leaves.behind logged, started.trans ran⟩

end

/-- Every reading is the same, and the calls return the statuses that are given. -/
def unchanging (status : Nat → Status) : Scenario :=
  { clock := fun _ => some .zero, ticks := fun _ => some 0, primitive := .scripted status }

def Readings.unchanging : Readings :=
  { times := fun _ => .zero, cycles := fun _ => 0 }

theorem cycles_zero : CycleCounter.steady.cycles 0 = .ok 0 := by
  rw [CycleCounter.cycles, CycleCounter.steady_gigahertz, Binary64.one_eq]
  decide +kernel

theorem shown_unchanging (status : Nat → Status) (start : Position) (points : Nat) :
    Shown (unchanging status) .steady .unchanging start points :=
  ⟨fun _ _ => rfl, fun _ _ => ⟨0, rfl, cycles_zero⟩⟩

theorem notes_unchanging (status : Nat → Status) (point : Nat × Int) :
    Notes (unchanging status) point :=
  nofun

theorem passes_unchanging [Machine] {status : Nat → Status} (reporting : Bool)
    (memory : 0 < point.1 ∧ point.1 < tenTo 10) (threads : 1 ≤ point.2 ∧ point.2 ≤ maxThreads)
    (first : status start.calls = Status.ok) (second : status (start.calls + 1) = Status.ok) :
    Passes (unchanging status) .unchanging reporting start point := by
  refine ⟨notes_unchanging _ _, threads, ⟨congrArg Except.ok first, congrArg Except.ok second⟩, ?_⟩
  cases reporting with
  | false => exact ⟨[], .silent _⟩
  | true =>
      have moderate : (Readings.unchanging.sample start point Status.ok Status.ok).Moderate := by
        have sizes : maxThreads < tenTo 10 := by decide
        refine ⟨?_, ?_, ?_, show 1 < tenTo 10 by decide, Nat.zero_le _, Nat.zero_le _,
          Nat.zero_le _⟩
        all_goals
          simp only [Readings.sample]
          omega
      obtain ⟨report, written⟩ := Sample.report_ok moderate
      exact ⟨_, .printed written⟩

theorem passes_unchanging_all [Machine] (reporting : Bool) (start : Position)
    {points : List (Nat × Int)}
    (inside : ∀ point ∈ points,
      (0 < point.1 ∧ point.1 < tenTo 10) ∧ 1 ≤ point.2 ∧ point.2 ≤ maxThreads) :
    ∀ point ∈ points.zipIdx, Passes (unchanging fun _ => Status.ok) .unchanging reporting
      (start.after point.2) point.1 := by
  intro point member
  obtain ⟨memory, threads⟩ := inside point.1 (List.fst_mem_of_mem_zipIdx member)
  exact passes_unchanging reporting memory threads rfl rfl

/-- A benchmark of a grid with points takes them in their order, each in its seven steps at the
readings and calls that follow those of the points before it. If all pass, it returns their
samples. Otherwise it ends at the first that does not pass: with the readings and calls and
the reports of the points before it, and with that of its own seven steps that its end allows. -/
theorem benchmark_keeps_protocol [Machine] (scenario : Scenario) {low high : Int}
    {threads : List Int}
    {grid : Grid} (built : Grid.build low high threads = .ok grid) (nonempty : grid.size ≠ 0)
    (counter : CycleCounter) (readings : Readings) (reporting : Bool)
    {passed rest : List (Nat × Int)} (split : grid.points = passed ++ rest)
    (shown : Shown scenario counter readings scenario.position passed.length)
    (passes : ∀ point ∈ passed.zipIdx, Passes scenario readings reporting
      (scenario.position.after point.2) point.1) :
    (rest = [] → ∃ after, Leaves scenario after readings reporting passed [] ∧
      scenario.run (benchmark (some grid) counter reporting) =
        (.ok (readings.samples scenario.position passed), after)) ∧
    ∀ point later fault last, rest = point :: later →
      Stops scenario counter readings reporting (scenario.position.after passed.length) point
        fault last →
      ∃ after, Leaves scenario after readings reporting passed last ∧
        scenario.run (benchmark (some grid) counter reporting) = (.error fault, after) := by
  have powers := Grid.exponent_of_mem_chosen built
  rw [← Grid.chosen_of_nonempty nonempty] at split
  constructor
  · rintro rfl
    exact run_benchmark_passed powers shown passes (split.trans (List.append_nil _))
  · rintro point later fault last rfl stops
    exact run_benchmark_stopped powers shown passes split stops

attribute [local instance] Machine.workstation

/-- Two points, the second call of the second not being answered with success. -/
theorem protocol_of_second_failure :
    let scenario := unchanging fun call => if call = 3 then Status.allocationFailed else Status.ok
    ∃ grid after, Grid.build 4 4 [1, 2] = .ok grid ∧ grid.size = 2 ∧
      Leaves scenario after .unchanging true [(16, 1)]
        (steps scenario.primitive ⟨2, 3, 2⟩ (16, 2)) ∧
      scenario.run (benchmark (some grid) .steady true) =
        (.error (.status (.failed ⟨Status.allocationFailed, .i⟩)), after) := by
  intro scenario
  have passes : ∀ point ∈ ([(16, 1)] : List (Nat × Int)).zipIdx,
      Passes scenario .unchanging true (scenario.position.after point.2) point.1 := by
    intro point member
    obtain rfl := List.mem_singleton.mp member
    exact passes_unchanging true (by decide) (by decide) rfl rfl
  have built : Grid.build 4 4 [1, 2] = .ok (Grid.ofPowers 4 4 [1, 2]) := rfl
  have split : (Grid.ofPowers 4 4 [1, 2]).points = [(16, 1)] ++ [(16, 2)] := rfl
  obtain ⟨-, stopped⟩ := benchmark_keeps_protocol scenario built (by decide) .steady .unchanging
    true split (shown_unchanging _ _ _) passes
  obtain ⟨after, leaves, ran⟩ := stopped (16, 2) [] _ _ rfl
    (.failed (notes_unchanging _ _) (by decide) (shown_unchanging _ _ _) ⟨rfl, rfl⟩ rfl)
  exact ⟨_, after, built, rfl, leaves, ran⟩

/-- A status of more than 32 bits has no text, so that the failure is not told by it. -/
theorem wide_status_unreported :
    let scenario := unchanging fun _ => (twoTo 31 : Nat)
    ∃ grid after, Grid.build 4 4 [1] = .ok grid ∧ grid.size ≠ 0 ∧
      Answered scenario.primitive ⟨0, 0, 0⟩ (16, 1) (twoTo 31 : Nat) (twoTo 31 : Nat) ∧
      Leaves scenario after .unchanging true [] (steps scenario.primitive ⟨0, 0, 0⟩ (16, 1)) ∧
      scenario.run (benchmark (some grid) .steady true) =
        (.error (.status (.range ⟨twoTo 31, .signed⟩)), after) ∧
      ∀ failure, (scenario.run (benchmark (some grid) .steady true)).1 ≠
        .error (.status (.failed failure)) := by
  intro scenario
  let grid := Grid.ofPowers 4 4 [1]
  have built : Grid.build 4 4 [1] = .ok grid := rfl
  have nonempty : grid.size ≠ 0 := by decide
  have split : (Grid.chosen (some grid)).points = [] ++ (16, 1) :: [] := by
    rw [Grid.chosen_of_nonempty nonempty]
    rfl
  have answered : Answered scenario.primitive ⟨0, 0, 0⟩ (16, 1) (twoTo 31 : Nat) (twoTo 31 : Nat) :=
    ⟨rfl, rfl⟩
  have stops : Stops scenario .steady .unchanging true ⟨0, 0, 0⟩ (16, 1)
      (.status (.range ⟨twoTo 31, .signed⟩)) (steps scenario.primitive ⟨0, 0, 0⟩ (16, 1)) :=
    .failed (notes_unchanging _ _) (by decide) (shown_unchanging _ _ _) answered rfl
  have passes : ∀ point ∈ ([] : List (Nat × Int)).zipIdx, Passes scenario .unchanging true
      (scenario.position.after point.2) point.1 := nofun
  obtain ⟨after, leaves, ran⟩ :=
    run_benchmark_stopped (Grid.exponent_of_mem_chosen built) (shown_unchanging _ _ _) passes split stops
  refine ⟨grid, after, built, nonempty, answered, leaves, ran, ?_⟩
  intro failure
  rw [ran]
  nofun

/-- As long as there are readings, every benchmark comes to one of these ends. -/
theorem benchmark_ends [Machine] (scenario : Scenario) {low high : Int} {threads : List Int}
    {grid : Grid}
    (built : Grid.build low high threads = .ok grid) (reporting : Bool)
    (shown : Shown scenario counter readings scenario.position (Grid.chosen (some grid)).size) :
    ∃ passed rest after, (Grid.chosen (some grid)).points = passed ++ rest ∧
      ((rest = [] ∧ Leaves scenario after readings reporting passed [] ∧
          scenario.run (benchmark (some grid) counter reporting) =
            (.ok (readings.samples scenario.position passed), after)) ∨
        ∃ point later fault last, rest = point :: later ∧
          Stops scenario counter readings reporting (scenario.position.after passed.length) point
            fault last ∧
          Leaves scenario after readings reporting passed last ∧
          scenario.run (benchmark (some grid) counter reporting) = (.error fault, after)) := by
  have powers := Grid.exponent_of_mem_chosen built
  rw [← Grid.length_points] at shown
  obtain ⟨passed, rest, split, passes, ends⟩ := exists_course scenario reporting _ shown
  rw [split, List.length_append] at shown
  have read := shown.fewer (Nat.le_add_right _ _)
  rcases ends with rfl | ⟨point, later, fault, last, rfl, stops⟩
  · obtain ⟨after, leaves, ran⟩ :=
      run_benchmark_passed powers read passes (split.trans (List.append_nil _))
    exact ⟨passed, [], after, split, .inl ⟨rfl, leaves, ran⟩⟩
  · obtain ⟨after, leaves, ran⟩ := run_benchmark_stopped powers read passes split stops
    exact ⟨passed, _, after, split, .inr ⟨point, later, fault, last, rfl, stops, leaves, ran⟩⟩

end Measure

end Argon2Workbench
