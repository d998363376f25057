import Argon2Workbench.Proofs.Measure.Point
import Mathlib.Data.List.Induction
import Mathlib.Data.List.Forall2
import Mathlib.Tactic.SplitIfs

namespace Argon2Workbench

open Hash.Argon2 (Failure Status Variant)

namespace Grid

theorem ofPowers_of_build {low high : Int} {threads : List Int} {grid : Grid}
    (built : build low high threads = .ok grid) :
    0 ≤ low ∧ low ≤ high ∧ grid = ofPowers low.toNat high.toNat threads := by
  unfold build at built
  split_ifs at built
  exact ⟨by omega, by omega, (Except.ok.inj built).symm⟩

theorem exponent_of_mem_points (low high : Nat) (threads : List Int) :
    ∀ point ∈ (ofPowers low high threads).points, ∃ exponent, point.1 = twoTo exponent := by
  intro point member
  obtain ⟨memory, costs, counted⟩ := List.mem_flatMap.mp member
  obtain ⟨count, -, rfl⟩ := List.mem_map.mp counted
  obtain ⟨exponent, -, rfl⟩ := List.mem_map.mp costs
  exact ⟨exponent, rfl⟩

theorem exponent_of_mem_chosen {low high : Int} {threads : List Int} {grid : Grid}
    (built : build low high threads = .ok grid) :
    ∀ point ∈ (chosen (some grid)).points, ∃ exponent, point.1 = twoTo exponent := by
  obtain ⟨-, -, rfl⟩ := ofPowers_of_build built
  rw [chosen]
  split
  · exact exponent_of_mem_points _ _ _
  · exact exponent_of_mem_points _ _ _

theorem chosen_of_nonempty {grid : Grid} (nonempty : grid.size ≠ 0) :
    chosen (some grid) = grid :=
  if_neg nonempty

end Grid

namespace Measure

variable {scenario before after : Scenario} {counter : CycleCounter} {readings : Readings}
  {reporting : Bool} {start : Position} {point : Nat × Int} {happened : List Event}
  {text : Text} {noted : List Log.Record}

def trace [Machine] (primitive : Primitive) (start : Position)
    (points : List (Nat × Int)) : List Event :=
  points.zipIdx.flatMap fun (point, index) => steps primitive (start.after index) point

def Readings.samples (readings : Readings) (start : Position) (points : List (Nat × Int)) :
    List Sample :=
  points.zipIdx.map fun (point, index) =>
    readings.sample (start.after index) point Status.ok Status.ok

theorem trace_snoc [Machine] (primitive : Primitive) (start : Position) (points : List (Nat × Int))
    (point : Nat × Int) :
    trace primitive start (points ++ [point]) =
      trace primitive start points ++ steps primitive (start.after points.length) point := by
  simp [trace, List.zipIdx_append]

theorem samples_snoc (readings : Readings) (start : Position) (points : List (Nat × Int))
    (point : Nat × Int) :
    readings.samples start (points ++ [point]) =
      readings.samples start points ++
        [readings.sample (start.after points.length) point Status.ok Status.ok] := by
  simp [Readings.samples, List.zipIdx_append]

theorem behind_trace [Machine] (primitive : Primitive) (start : Position)
    (points : List (Nat × Int)) :
    start.behind (trace primitive start points) = start.after points.length := by
  induction points using List.reverseRecOn with
  | nil => rfl
  | append_singleton points point ih =>
      rw [trace_snoc, Position.behind_append, ih, steps_after, Position.after_after,
        List.length_append, List.length_singleton]

theorem Shown.fewer {points fewer : Nat}
    (shown : Shown scenario counter readings start points) (less : fewer ≤ points) :
    Shown scenario counter readings start fewer :=
  ⟨fun index inside => shown.clock index (by omega), fun index inside =>
    shown.ticks index (by omega)⟩

theorem Shown.last {points : Nat}
    (shown : Shown scenario counter readings start (points + 1)) :
    Shown scenario counter readings (start.after points) 1 := by
  constructor
  · intro index inside
    rw [Position.after, Nat.add_assoc]
    exact shown.clock (2 * points + index) (by omega)
  · intro index inside
    rw [Position.after, Nat.add_assoc]
    exact shown.ticks (3 * points + index) (by omega)

/-- Nothing stands against a point: its context can be built, both calls succeed, and its
record and its report can be written where they have to be. -/
structure Passes [Machine] (scenario : Scenario) (readings : Readings) (reporting : Bool)
    (position : Position) (point : Nat × Int) : Prop where
  notes : Notes scenario point
  threads : 1 ≤ point.2 ∧ point.2 ≤ maxThreads
  answered : Answered scenario.primitive position point Status.ok Status.ok
  reported : ∃ text, Reported reporting
    (readings.sample position point Status.ok Status.ok) text

theorem build_point [Machine] (power : ∃ exponent, point.1 = twoTo exponent)
    (threads : 1 ≤ point.2 ∧ point.2 ≤ maxThreads) :
    (Request.measurement point.1 point.2).build = .ok (contextAt point) := by
  obtain ⟨exponent, costs⟩ := power
  rw [contextAt, costs]
  exact Request.build_measurement_of_threads threads

theorem Notes.later (notes : Notes before point)
    (proceeds : before.Proceeds after happened text noted) : Notes after point := by
  unfold Notes
  rw [proceeds.exacting]
  exact notes

variable [Machine]

theorem Passes.later (passes : Passes before readings reporting start point)
    (proceeds : before.Proceeds after happened text noted) :
    Passes after readings reporting start point :=
  ⟨passes.notes.later proceeds, passes.threads, proceeds.primitive ▸ passes.answered,
    passes.reported⟩

/-- The points have passed, and behind them the last events have happened. No report but
theirs was printed. -/
def Leaves (before after : Scenario) (readings : Readings) (reporting : Bool)
    (passed : List (Nat × Int)) (last : List Event) : Prop :=
  ∃ texts noted,
    List.Forall₂ (Reported reporting) (readings.samples before.position passed) texts ∧
    before.Proceeds after (trace before.primitive before.position passed ++ last) texts.flatten
      noted

namespace Leaves

variable {between : Scenario} {passed : List (Nat × Int)} {last : List Event}

theorem proceeds (leaves : Leaves before after readings reporting passed last) :
    ∃ text noted, before.Proceeds after (trace before.primitive before.position passed ++ last)
      text noted := by
  obtain ⟨texts, noted, -, proceeds⟩ := leaves
  exact ⟨texts.flatten, noted, proceeds⟩

theorem position (leaves : Leaves before after readings reporting passed []) :
    after.position = before.position.after passed.length := by
  obtain ⟨_, _, proceeds⟩ := leaves.proceeds
  rw [proceeds.position, List.append_nil, behind_trace]

theorem behind (first : before.Proceeds between [] [] noted)
    (leaves : Leaves between after readings reporting passed last) :
    Leaves before after readings reporting passed last := by
  have place : between.position = before.position := first.position
  obtain ⟨texts, _, printed, proceeds⟩ := leaves
  have ended := first.trans proceeds
  rw [place] at printed
  rw [place, first.primitive] at ended
  exact ⟨texts, _, printed, ended⟩

theorem stopped (leaves : Leaves before between readings reporting passed [])
    (following : between.Proceeds after last [] noted) :
    Leaves before after readings reporting passed last := by
  obtain ⟨texts, _, printed, proceeds⟩ := leaves
  have ended := proceeds.trans following
  rw [List.append_nil, List.append_nil] at ended
  exact ⟨texts, _, printed, ended⟩

theorem snoc (leaves : Leaves before between readings reporting passed [])
    (reported : Reported reporting (readings.sample between.position point Status.ok Status.ok)
      text)
    (following : between.Proceeds after (steps between.primitive between.position point) text
      noted) :
    Leaves before after readings reporting (passed ++ [point]) [] := by
  have place := leaves.position
  obtain ⟨texts, earlier, printed, proceeds⟩ := leaves
  have ended := proceeds.trans following
  rw [List.append_nil, place, proceeds.primitive, ← trace_snoc] at ended
  rw [place] at reported
  refine ⟨texts ++ [text], earlier ++ noted, ?_, ?_⟩
  · rw [samples_snoc]
    exact List.rel_append printed (.cons reported .nil)
  · rw [List.append_nil, List.flatten_append, List.flatten_singleton]
    exact ended

end Leaves

def measureAll (counter : CycleCounter) (reporting : Bool) (points : List (Nat × Int)) :
    Host.Program Scenario.Run (List Sample) :=
  points.mapM fun (memory, threads) => Measure.point counter reporting memory threads

theorem measureAll_cons (counter : CycleCounter) (reporting : Bool) (point : Nat × Int)
    (later : List (Nat × Int)) :
    measureAll counter reporting (point :: later) = (do
      let sample ← Measure.point counter reporting point.1 point.2
      let samples ← measureAll counter reporting later
      return sample :: samples) :=
  List.mapM_cons

theorem run_points_passed (points : List (Nat × Int))
    (powers : ∀ point ∈ points, ∃ exponent, point.1 = twoTo exponent)
    (shown : Shown scenario counter readings scenario.position points.length)
    (passes : ∀ passed ∈ points.zipIdx, Passes scenario readings reporting
      (scenario.position.after passed.2) passed.1) :
    ∃ after, Leaves scenario after readings reporting points [] ∧
      scenario.run (measureAll counter reporting points) =
        (.ok (readings.samples scenario.position points), after) := by
  -- Taken off the end, a point leaves those before it in their places.
  induction points using List.reverseRecOn with
  | nil => exact ⟨scenario, ⟨[], [], .nil, .refl scenario⟩, rfl⟩
  | append_singleton points point ih =>
      rw [List.length_append, List.length_singleton] at shown
      obtain ⟨between, leaves, ran⟩ :=
        ih (fun other member => powers other (List.mem_append_left _ member))
          (shown.fewer (Nat.le_succ _)) (fun passed member => passes passed (by
            rw [List.zipIdx_append]
            exact List.mem_append_left _ member))
      have place := leaves.position
      obtain ⟨_, _, proceeds⟩ := leaves.proceeds
      have pass : Passes between readings reporting between.position point := by
        rw [place]
        exact (passes (point, points.length) (by simp [List.zipIdx_append])).later proceeds
      obtain ⟨text, reported⟩ := pass.reported
      obtain ⟨after, following, measured⟩ := run_point_passed pass.notes
        (build_point (powers point (by simp)) pass.threads) (place ▸ shown.last.later proceeds)
        pass.answered reported
      refine ⟨after, leaves.snoc reported following, ?_⟩
      rw [samples_snoc, ← place]
      exact Scenario.run_mapM_snoc ran measured

/-- What ends a run at a point, and what has happened at the point by then. -/
inductive Stops (scenario : Scenario) (counter : CycleCounter) (readings : Readings)
    (reporting : Bool) (position : Position) (point : Nat × Int) : Fault → List Event → Prop
  | unnoted {error : Numeral.DigitsError}
      (exacting : scenario.exacting.any (· ≤ Log.Level.debug) = true)
      (unwritten : pointRecord point.1 point.2 = .error error) :
      Stops scenario counter readings reporting position point (.digits error) []
  | outside (notes : Notes scenario point)
      (outside : ¬ (1 ≤ point.2 ∧ point.2 ≤ maxThreads)) :
      Stops scenario counter readings reporting position point
        (.context (.violation (.lanes point.2))) []
  | raised {error : InvocationError} (notes : Notes scenario point)
      (threads : 1 ≤ point.2 ∧ point.2 ≤ maxThreads)
      (shown : Shown scenario counter readings position 1)
      (raised : (scenario.primitive.answer position.calls (contextAt point) .d).result =
        .error error) :
      Stops scenario counter readings reporting position point (.invocation error)
        (opening position point)
  | failed {statusD statusI : Status} {failure : Failure} (notes : Notes scenario point)
      (threads : 1 ≤ point.2 ∧ point.2 ≤ maxThreads)
      (shown : Shown scenario counter readings position 1)
      (answered : Answered scenario.primitive position point statusD statusI)
      (failed : firstFailed? statusD statusI = some failure) :
      Stops scenario counter readings reporting position point (.status failure.error)
        (steps scenario.primitive position point)
  | unreported {error : Sample.Error} (notes : Notes scenario point)
      (threads : 1 ≤ point.2 ∧ point.2 ≤ maxThreads)
      (shown : Shown scenario counter readings position 1)
      (answered : Answered scenario.primitive position point Status.ok Status.ok)
      (asked : reporting = true)
      (unwritten : (readings.sample position point Status.ok Status.ok).report = .error error) :
      Stops scenario counter readings reporting position point (.sample error)
        (steps scenario.primitive position point)

variable {fault : Fault} {last : List Event}

theorem Stops.later (stops : Stops before counter readings reporting start point fault last)
    (proceeds : before.Proceeds after happened text noted) :
    Stops after counter readings reporting start point fault last := by
  cases stops with
  | unnoted exacting unwritten => exact .unnoted (proceeds.exacting ▸ exacting) unwritten
  | outside notes outside => exact .outside (notes.later proceeds) outside
  | raised notes threads shown raised =>
      exact .raised (notes.later proceeds) threads (shown.later proceeds)
        (proceeds.primitive ▸ raised)
  | failed notes threads shown answered failed =>
      rw [← proceeds.primitive] at answered ⊢
      exact .failed (notes.later proceeds) threads (shown.later proceeds) answered failed
  | unreported notes threads shown answered asked unwritten =>
      rw [← proceeds.primitive] at answered ⊢
      exact .unreported (notes.later proceeds) threads (shown.later proceeds) answered asked
        unwritten

theorem run_point_stopped (power : ∃ exponent, point.1 = twoTo exponent)
    (stops : Stops scenario counter readings reporting scenario.position point fault last) :
    ∃ after noted, scenario.Proceeds after last [] noted ∧
      scenario.run (Measure.point counter reporting point.1 point.2) = (.error fault, after) := by
  cases stops with
  | unnoted exacting unwritten =>
      exact ⟨scenario, [], .refl scenario, run_point_unnoted exacting unwritten⟩
  | outside notes outside =>
      exact ⟨_, _, .logged scenario _,
        run_point_unbuilt notes (Request.build_measurement_outside outside)⟩
  | raised notes threads shown raised =>
      exact run_point_raised notes (build_point power threads) shown raised
  | failed notes threads shown answered failed =>
      obtain ⟨after, proceeds, ran⟩ :=
        run_point_failed notes (build_point power threads) shown reporting answered failed
      exact ⟨after, _, proceeds, ran⟩
  | unreported notes threads shown answered asked unwritten =>
      subst asked
      obtain ⟨after, proceeds, ran⟩ :=
        run_point_unreported notes (build_point power threads) shown answered unwritten
      exact ⟨after, _, proceeds, ran⟩

theorem run_points_stopped {passed : List (Nat × Int)} (later : List (Nat × Int))
    (powers : ∀ other ∈ passed ++ point :: later, ∃ exponent, other.1 = twoTo exponent)
    (shown : Shown scenario counter readings scenario.position passed.length)
    (passes : ∀ point ∈ passed.zipIdx, Passes scenario readings reporting
      (scenario.position.after point.2) point.1)
    (stops : Stops scenario counter readings reporting (scenario.position.after passed.length)
      point fault last) :
    ∃ after, Leaves scenario after readings reporting passed last ∧
      scenario.run (measureAll counter reporting (passed ++ point :: later)) =
        (.error fault, after) := by
  obtain ⟨between, leaves, ran⟩ := run_points_passed passed
    (fun other member => powers other (List.mem_append_left _ member)) shown passes
  have place := leaves.position
  obtain ⟨_, _, proceeds⟩ := leaves.proceeds
  obtain ⟨after, _, following, stopped⟩ :=
    run_point_stopped (powers point (by simp)) (place ▸ stops.later proceeds)
  exact ⟨after, leaves.stopped following, Scenario.run_mapM_failed ran stopped later⟩

/-- Where it can be read off the clock and the counter, a point passes or stops the run. -/
theorem passes_or_stops (scenario : Scenario) (reporting : Bool)
    (shown : Shown scenario counter readings start 1) (point : Nat × Int) :
    Passes scenario readings reporting start point ∨
      ∃ fault last, Stops scenario counter readings reporting start point fault last := by
  by_cases notes : Notes scenario point
  case neg =>
    obtain ⟨exacting, unwritten⟩ := Classical.not_imp.mp notes
    cases recorded : pointRecord point.1 point.2 with
    | ok record => exact absurd ⟨record, recorded⟩ unwritten
    | error error => exact .inr ⟨_, _, .unnoted exacting recorded⟩
  by_cases threads : 1 ≤ point.2 ∧ point.2 ≤ maxThreads
  case neg => exact .inr ⟨_, _, .outside notes threads⟩
  obtain ⟨statusD, statusI, answered⟩ | ⟨error, raised⟩ :=
    answered_or_raised scenario.primitive start point
  case inr => exact .inr ⟨_, _, .raised notes threads shown raised⟩
  by_cases okD : statusD = Status.ok
  case neg =>
    exact .inr ⟨_, _, .failed notes threads shown answered (by rw [firstFailed?, if_pos okD])⟩
  by_cases okI : statusI = Status.ok
  case neg =>
    exact .inr ⟨_, _, .failed notes threads shown answered (by
      rw [firstFailed?, if_neg (not_not_intro okD), if_pos okI])⟩
  subst okD okI
  cases reporting with
  | false => exact .inl ⟨notes, threads, answered, [], .silent _⟩
  | true =>
      cases written : (readings.sample start point Status.ok Status.ok).report with
      | ok report => exact .inl ⟨notes, threads, answered, _, .printed written⟩
      | error error => exact .inr ⟨_, _, .unreported notes threads shown answered rfl written⟩

/-- However far the readings last, the points up to the first that stops the run pass. -/
theorem exists_course (scenario : Scenario) (reporting : Bool) (points : List (Nat × Int))
    (shown : Shown scenario counter readings start points.length) :
    ∃ passed rest, points = passed ++ rest ∧
      (∀ point ∈ passed.zipIdx,
        Passes scenario readings reporting (start.after point.2) point.1) ∧
      (rest = [] ∨ ∃ point later fault last, rest = point :: later ∧
        Stops scenario counter readings reporting (start.after passed.length) point fault last) := by
  induction points using List.reverseRecOn with
  | nil => exact ⟨[], [], rfl, nofun, .inl rfl⟩
  | append_singleton points point ih =>
      rw [List.length_append, List.length_singleton] at shown
      obtain ⟨passed, rest, rfl, passes, ends⟩ := ih (shown.fewer (Nat.le_succ _))
      rcases ends with rfl | ⟨first, later, fault, last, rfl, stops⟩
      · rw [List.append_nil] at shown ⊢
        rcases passes_or_stops scenario reporting shown.last point with passing | ⟨fault, last, stops⟩
        · refine ⟨passed ++ [point], [], (List.append_nil _).symm, ?_, .inl rfl⟩
          rw [List.zipIdx_append]
          intro other member
          rcases List.mem_append.mp member with earlier | latest
          · exact passes other earlier
          · rw [List.zipIdx_singleton, List.mem_singleton] at latest
            rw [latest, Nat.zero_add]
            exact passing
        · exact ⟨passed, [point], rfl, passes, .inr ⟨point, [], fault, last, rfl, stops⟩⟩
      · exact ⟨passed, first :: later ++ [point], List.append_assoc _ _ _, passes,
          .inr ⟨first, later ++ [point], fault, last, rfl, stops⟩⟩

/-- Before the first point only the size of the grid is logged. -/
theorem run_benchmark_started (scenario : Scenario) (grid : Option Grid) (counter : CycleCounter)
    (reporting : Bool) :
    ∃ after, scenario.Proceeds after [] [] [sizeRecord (Grid.chosen grid)] ∧
      scenario.run (benchmark grid counter reporting) =
        after.run (measureAll counter reporting (Grid.chosen grid).points) := by
  refine ⟨_, .logged scenario _, ?_⟩
  rw [benchmark, Scenario.run_bind_ok _ (Scenario.run_note _ _)]
  rfl

end Measure

end Argon2Workbench
