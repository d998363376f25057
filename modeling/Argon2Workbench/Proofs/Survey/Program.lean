import Argon2Workbench.Proofs.Measure.Fitting
import Argon2Workbench.Proofs.Session.Program
import Argon2Workbench.Survey.Program

namespace Argon2Workbench

open CommandLine (Token)
open CycleCounter (steady)
open Hash.Argon2 (Failure Status Variant)
open Session (settings_default)
open Measure (Answered Fits Passes Position Readings Reported Shown Stops firstFailed?)

namespace Survey

variable {scenario before between after : Scenario} {readings : Readings}
  {points passed rest later : List (Nat × Int)} {point : Nat × Int} {texts : List Text}

/-- The points up to a place in their row pass, and these are the texts of their reports. -/
structure Reaches [Machine] (scenario : Scenario) (readings : Readings)
    (points passed rest : List (Nat × Int)) (texts : List Text) : Prop where
  split : points = passed ++ rest
  passes : ∀ point ∈ passed.zipIdx,
    Passes scenario readings true (scenario.position.after point.2) point.1
  reported : List.Forall₂ (Reported true) (readings.samples scenario.position passed) texts

/-- What a survey of points comes to, what it prints behind its header, and what it writes on the
stream for errors. -/
inductive Ends [Machine] (scenario : Scenario) (readings : Readings) (points : List (Nat × Int)) :
    Except Fault Nat → Text → Text → Prop
  | completed {texts : List Text} (reaches : Reaches scenario readings points points [] texts) :
      Ends scenario readings points (.ok 0) texts.flatten []
  | failed {passed later : List (Nat × Int)} {point : Nat × Int} {texts : List Text}
      {statusD statusI : Status} {failure : Failure}
      (reaches : Reaches scenario readings points passed (point :: later) texts)
      (threads : 1 ≤ point.2 ∧ point.2 ≤ maxThreads)
      (answered : Answered scenario.primitive (scenario.position.after passed.length) point statusD
        statusI)
      (failed : firstFailed? statusD statusI = some failure) :
      Ends scenario readings points (.ok 1) texts.flatten
        (Text.ofString s!"error: {failure.message}\n")
  | outside {passed later : List (Nat × Int)} {point : Nat × Int} {texts : List Text}
      (reaches : Reaches scenario readings points passed (point :: later) texts)
      (outside : ¬ (1 ≤ point.2 ∧ point.2 ≤ maxThreads)) :
      Ends scenario readings points (.error (.context (.violation (.lanes point.2)))) texts.flatten
        []
  | wide {passed later : List (Nat × Int)} {point : Nat × Int} {texts : List Text}
      (reaches : Reaches scenario readings points passed (point :: later) texts)
      (threads : 1 ≤ point.2 ∧ point.2 ≤ maxThreads) (wide : twoTo 32 ≤ point.1)
      (real : scenario.primitive = .real) :
      Ends scenario readings points (.error (.invocation (.range ⟨point.1, .unsigned⟩)))
        texts.flatten []
  | unreported {passed later : List (Nat × Int)} {point : Nat × Int} {texts : List Text}
      {error : Sample.Error}
      (reaches : Reaches scenario readings points passed (point :: later) texts)
      (threads : 1 ≤ point.2 ∧ point.2 ≤ maxThreads) (wide : twoTo 32 ≤ point.1)
      (unwritten : (readings.sample (scenario.position.after passed.length) point Status.ok
        Status.ok).report = .error error) :
      Ends scenario readings points (.error (.sample error)) texts.flatten []

theorem Reaches.mem [Machine]
    (reaches : Reaches scenario readings points passed (point :: later) texts) :
    point ∈ points := by
  rw [reaches.split]
  exact List.mem_append_right _ List.mem_cons_self

/-- Where all points fit, nothing is raised that is not reported. -/
theorem Ends.clean [Machine] {outcome : Except Fault Nat} {printed complained : Text}
    (ends : Ends scenario readings points outcome printed complained)
    (fits : ∀ point ∈ points, Fits point) : outcome = .ok 0 ∨ outcome = .ok 1 := by
  cases ends with
  | completed => exact .inl rfl
  | failed => exact .inr rfl
  | outside reaches outside => exact absurd (fits _ reaches.mem).threads outside
  | wide reaches threads wide =>
      exact absurd (fits _ reaches.mem).memory (Nat.not_lt.mpr wide)
  | unreported reaches threads wide =>
      exact absurd (fits _ reaches.mem).memory (Nat.not_lt.mpr wide)

theorem run_reporting_ok [Machine] {program : Host.Program Scenario.Run Unit}
    (done : before.run program = (.ok (), between)) :
    before.run (reporting program) = (.ok 0, between) := by
  rw [reporting, Scenario.run_tryCatch, Scenario.run_bind_ok _ done]
  rfl

theorem run_reporting_failed [Machine] {program : Host.Program Scenario.Run Unit}
    {failure : Failure}
    (failed : before.run program = (.error (.status (.failed failure)), between)) :
    before.run (reporting program) =
      (.ok 1, between.complained (Text.ofString s!"error: {failure.message}\n")) := by
  rw [reporting, Scenario.run_tryCatch, Scenario.run_bind_error _ failed]
  rfl

theorem run_reporting_raised [Machine] {program : Host.Program Scenario.Run Unit} {fault : Fault}
    (raised : before.run program = (.error fault, between))
    (other : ∀ failure, fault ≠ .status (.failed failure)) :
    before.run (reporting program) = (.error fault, between.complained []) := by
  rw [reporting, Scenario.run_tryCatch, Scenario.run_bind_error _ raised, Scenario.complained_nil]
  dsimp only
  split
  · next failure => exact absurd rfl (other failure)
  · rfl

section

variable (lenient : scenario.exacting = none)
  (words : ∀ call, WordType.signed.holds 32 (scenario.primitive.statusOf call) = true)
  (small : ∀ index, (readings.cycles index).natAbs ≤ twoTo 65)

include lenient words small

/-- What stops the measurement at a point makes one of the ends of it. -/
theorem ends_of_stops [Machine] {fault : Fault} {last : List Event}
    (reaches : Reaches scenario readings points passed (point :: later) texts)
    (power : ∃ exponent, point.1 = twoTo exponent)
    (stops : Stops scenario steady readings true (scenario.position.after passed.length) point
      fault last) {program : Host.Program Scenario.Run Unit}
    (ran : before.run program = (.error fault, between)) :
    ∃ outcome complained, Ends scenario readings points outcome texts.flatten complained ∧
      before.run (reporting program) = (outcome, between.complained complained) := by
  cases stops with
  | unnoted exacting unwritten =>
      rw [lenient] at exacting
      contradiction
  | outside notes outside => exact ⟨_, [], .outside reaches outside, run_reporting_raised ran nofun⟩
  | raised notes threads shown raised =>
      obtain ⟨real, wide, rfl⟩ := Measure.raised_wide power threads raised
      exact ⟨_, [], .wide reaches threads wide real, run_reporting_raised ran nofun⟩
  | failed notes threads shown answered failed =>
      rw [Measure.error_of_firstFailed words answered failed] at ran
      exact ⟨_, _, .failed reaches threads answered failed, run_reporting_failed ran⟩
  | unreported notes threads shown answered asked unwritten =>
      have wide := Measure.unreported_wide power threads small unwritten
      exact ⟨_, [], .unreported reaches threads wide unwritten, run_reporting_raised ran nofun⟩

end

def header (grid : Grid) : Text :=
  Text.ofString s!"Argon2 benchmark: {grid.size} configurations\n"

section

variable {settings : Settings} (rate : settings.gigahertz = .one)

include rate

theorem run_survey [Machine] (scenario : Scenario) (grid : Grid) :
    scenario.run (survey settings grid) = (scenario.printed (header grid)).run
      (Measure.benchmark (some grid) steady true >>= fun _ => pure ()) := by
  rw [survey, Scenario.run_bind_ok _ (Scenario.run_print _ _), rate, CycleCounter.build_one,
    Scenario.run_bind_ok _ (Scenario.run_orFault_ok _ _ _)]
  rfl

theorem run_survey_ends [Machine] {grid : Grid} {low high : Int} {threads : List Int}
    (ready : scenario.Timed)
    (lenient : scenario.exacting = none)
    (words : ∀ call, WordType.signed.holds 32 (scenario.primitive.statusOf call) = true)
    (built : Grid.build low high threads = .ok grid) (given : threads ≠ []) :
    ∃ readings outcome printed complained noted between,
      (∀ start points, Shown scenario steady readings start points) ∧
      Ends scenario readings grid.points outcome printed complained ∧
      scenario.Writes between (header grid ++ printed) noted ∧
      scenario.run (reporting (survey settings grid)) =
        (outcome, between.complained complained) := by
  obtain ⟨readings, small, shown⟩ := Measure.readings_of_timed ready
  have chosen := Grid.chosen_of_threads built given
  have powers := Grid.exponent_of_mem_chosen built
  -- No point can tell whether the header was printed.
  have headed := Scenario.Proceeds.printed scenario (header grid)
  have headedShown := fun start points => (shown start points).later headed
  obtain ⟨passed, rest, split, passes, ends⟩ :=
    Measure.exists_course scenario true grid.points (shown scenario.position _)
  have headedPasses := fun point member => (passes point member).later headed
  rw [← chosen] at split
  rcases ends with rfl | ⟨point, later, fault, last, rfl, stops⟩
  · rw [List.append_nil] at split
    obtain ⟨between, ⟨texts, noted, reported, proceeds⟩, ran⟩ :=
      Measure.run_benchmark_passed powers (headedShown _ _) headedPasses split
    have finished := (run_survey rate scenario grid).trans (Scenario.run_bind_ok _ ran)
    rw [chosen] at split
    subst split
    have reaches : Reaches scenario readings grid.points grid.points [] texts :=
      ⟨(List.append_nil _).symm, passes, reported⟩
    refine ⟨readings, .ok 0, texts.flatten, [], _, between, shown, .completed reaches,
      headed.writes.trans proceeds.writes, ?_⟩
    rw [Scenario.complained_nil]
    exact run_reporting_ok finished
  · obtain ⟨between, ⟨texts, noted, reported, proceeds⟩, ran⟩ :=
      Measure.run_benchmark_stopped powers (headedShown _ _) headedPasses split
        (stops.later headed)
    have stopped := (run_survey rate scenario grid).trans (Scenario.run_bind_error _ ran)
    have power := powers point (by rw [split]; simp)
    rw [chosen] at split
    have reaches : Reaches scenario readings grid.points passed (point :: later) texts :=
      ⟨split, passes, reported⟩
    obtain ⟨outcome, complained, ends, ran⟩ :=
      ends_of_stops lenient words small reaches power stops stopped
    exact ⟨readings, outcome, texts.flatten, complained, _, between, shown, ends,
      headed.writes.trans proceeds.writes, ran⟩

end

theorem fits_of_build {grid : Grid} {low high : Int} {threads : List Int}
    (built : Grid.build low high threads = .ok grid) (narrow : high ≤ 31)
    (counts : ∀ count ∈ threads, 1 ≤ count ∧ count ≤ maxThreads) :
    ∀ point ∈ grid.points, Fits point := by
  intro point member
  obtain ⟨natural, ordered, -⟩ := Grid.ofPowers_of_build built
  rw [Grid.points_of_build built] at member
  obtain ⟨exponent, powers, crossed⟩ := List.mem_flatMap.mp member
  obtain ⟨count, counted, rfl⟩ := List.mem_map.mp crossed
  obtain ⟨offset, inside, rfl⟩ := List.mem_range'.mp powers
  exact ⟨counts count counted, twoTo_lt_twoTo (by omega)⟩

section

variable [Machine]

variable {lookup : String → Option Text} {tokens : List Token} {settings : Settings}
  {options : Options} {low high : Int} (read : Settings.ofEnvironment lookup = .ok settings)
  (accepted : Options.ofTokens tokens = .ok options) (bounds : options.bounds = .ok (low, high))

include read accepted bounds

theorem run_program_built (scenario : Scenario) {grid : Grid}
    (built : Grid.build low high options.threads = .ok grid) :
    scenario.run (program lookup tokens) = scenario.run (reporting (survey settings grid)) := by
  have gridded : scenario.run (Survey.grid options) = (.ok grid, scenario) := by
    rw [Survey.grid, bounds, Scenario.run_bind_ok _ (Scenario.run_orFault_ok _ _ _)]
    dsimp only
    rw [built, Scenario.run_orFault_ok]
  rw [program, accepted]
  dsimp only
  rw [read, Scenario.run_bind_ok _ (Scenario.run_orFault_ok _ _ _), Scenario.run_bind_ok _ gridded]

/-- Nothing is announced of a grid that cannot be built, and nothing reported. -/
theorem run_program_unbuilt (scenario : Scenario) {error : Grid.Error}
    (unbuilt : Grid.build low high options.threads = .error error) :
    scenario.run (program lookup tokens) = (.error (.grid error), scenario) := by
  have ungridded : scenario.run (Survey.grid options) = (.error (.grid error), scenario) := by
    rw [Survey.grid, bounds, Scenario.run_bind_ok _ (Scenario.run_orFault_ok _ _ _)]
    dsimp only
    rw [unbuilt, Scenario.run_orFault_error]
  rw [program, accepted]
  dsimp only
  rw [read, Scenario.run_bind_ok _ (Scenario.run_orFault_ok _ _ _),
    Scenario.run_bind_error _ ungridded]

/-- The first point of a grid is the first that can stop a program. -/
theorem run_program_stopped (scenario : Scenario) (rate : settings.gigahertz = .one) {grid : Grid}
    (built : Grid.build low high options.threads = .ok grid) (split : grid.points = point :: later)
    {fault : Fault} {last : List Event}
    (stops : Stops scenario steady readings true scenario.position point fault last)
    (other : ∀ failure, fault ≠ .status (.failed failure)) :
    ∃ after, scenario.run (program lookup tokens) = (.error fault, after) := by
  have headed := Scenario.Proceeds.printed scenario (header grid)
  have nonempty : grid.size ≠ 0 := by
    rw [← Grid.length_points, split]
    exact Nat.succ_ne_zero _
  have first : (Grid.chosen (some grid)).points = [] ++ point :: later := by
    rw [Grid.chosen_of_nonempty nonempty]
    exact split
  have unread : Shown (scenario.printed (header grid)) steady readings
      (scenario.printed (header grid)).position 0 :=
    ⟨fun index inside => by omega, fun index inside => by omega⟩
  have later : Stops (scenario.printed (header grid)) steady readings true
      ((scenario.printed (header grid)).position.after 0) point fault last := stops.later headed
  obtain ⟨after, -, ran⟩ := Measure.run_benchmark_stopped (Grid.exponent_of_mem_chosen built)
    unread (fun point member => absurd member List.not_mem_nil) first later
  have stopped := (run_survey rate scenario grid).trans (Scenario.run_bind_error _ ran)
  exact ⟨_, (run_program_built read accepted bounds scenario built).trans
    (run_reporting_raised stopped other)⟩

/-- A program whose options are accepted ends with the error of its grid, if that cannot be built,
and with one of the ends of its points behind the header, if it can. Either it returns an exit
status, or a fault goes through that the error of a grid, a thread count out of range or memory of
more than 32 bits has raised; with bounds from 0 to 31 and thread counts in range it is always an
exit status. -/
theorem program_reports_or_raises (scenario : Scenario) (rate : settings.gigahertz = .one)
    (given : options.threads ≠ []) (ready : scenario.Timed) (lenient : scenario.exacting = none)
    (words : ∀ call, WordType.signed.holds 32 (scenario.primitive.statusOf call) = true) :
    ∃ outcome after, scenario.run (program lookup tokens) = (outcome, after) ∧
      (match Grid.build low high options.threads with
        | .error error => outcome = .error (.grid error) ∧ after = scenario
        | .ok grid => ∃ readings printed complained noted between,
            (∀ start points, Shown scenario steady readings start points) ∧
            Ends scenario readings grid.points outcome printed complained ∧
            scenario.Writes between (header grid ++ printed) noted ∧
            after = between.complained complained) ∧
      (0 ≤ low → low ≤ high → high ≤ 31 →
        (∀ count ∈ options.threads, 1 ≤ count ∧ count ≤ maxThreads) →
          outcome = .ok 0 ∨ outcome = .ok 1) := by
  cases built : Grid.build low high options.threads with
  | error error =>
      refine ⟨_, _, run_program_unbuilt read accepted bounds scenario built, ⟨rfl, rfl⟩, ?_⟩
      intro natural ordered
      rw [Grid.build, if_neg (Int.not_lt.mpr ordered), if_neg (Int.not_lt.mpr natural)] at built
      contradiction
  | ok grid =>
      obtain ⟨readings, outcome, printed, complained, noted, between, shown, ends, writes, ran⟩ :=
        run_survey_ends rate ready lenient words built given
      refine ⟨outcome, _, (run_program_built read accepted bounds scenario built).trans ran,
        ⟨readings, printed, complained, noted, between, shown, ends, writes, rfl⟩, ?_⟩
      intro _ _ narrow counts
      exact ends.clean (fits_of_build built narrow counts)

end

attribute [local instance] Machine.workstation

/-- The second call at the second of two points finds no memory. -/
def starved : Scenario :=
  Measure.unchanging fun call => if call = 3 then Status.allocationFailed else Status.ok

def pairTokens : List Token :=
  ["--min-log-mcost", "4", "--max-log-mcost=4", "--threads", "1", "2"]

theorem pair_fails_cleanly :
    ∃ after failure printed noted between,
      starved.run (program (fun _ => none) pairTokens) = (.ok 1, after) ∧
      starved.Writes between (header (Grid.ofPowers 4 4 [1, 2]) ++ printed) noted ∧
      after = between.complained (Text.ofString s!"error: {Failure.message failure}\n") := by
  have accepted : Options.ofTokens pairTokens = .ok ⟨some 4, some 4, [1, 2]⟩ := by decide +kernel
  have ready : starved.Timed := ⟨fun _ => ⟨_, rfl⟩, fun _ => ⟨0, rfl, by decide⟩⟩
  have words (call : Nat) : WordType.signed.holds 32 (starved.primitive.statusOf call) = true := by
    change WordType.signed.holds 32 (if call = 3 then Status.allocationFailed else Status.ok) = true
    split <;> decide
  have built : Grid.build 4 4 [1, 2] = .ok (Grid.ofPowers 4 4 [1, 2]) := rfl
  obtain ⟨outcome, after, ran, gridded, clean⟩ :=
    program_reports_or_raises settings_default accepted rfl starved (by dsimp only)
      (List.cons_ne_nil 1 [2]) ready rfl words
  simp only [built] at gridded
  obtain ⟨readings, printed, complained, noted, between, -, ends, writes, rfl⟩ := gridded
  rcases clean (by decide) (by decide) (by decide) (by decide) with rfl | rfl
  · cases ends with
    | completed reaches =>
        have last := (reaches.passes ((16, 2), 1) (by decide)).answered.second
        exact absurd (Except.ok.inj last) (by decide)
  · cases ends with
    | failed => exact ⟨_, _, _, _, _, ran, writes, rfl⟩

/-- Clock and counter stand still, and nothing stands for the primitive. -/
def waiting : Scenario :=
  { clock := fun _ => some .zero, ticks := fun _ => some 0 }

/-- Bounds in the wrong order, no threads, and more memory than 32 bits count: none of it is
reported, and none comes to an exit status. -/
theorem unfit_surveys_raise :
    (waiting.run (program (fun _ => none) ["--min-log-mcost", "5", "--max-log-mcost", "4"])).1 =
      .error (.grid (.emptyRange 5 4)) ∧
    (waiting.run (program (fun _ => none)
      ["--min-log-mcost", "4", "--max-log-mcost", "4", "--threads", "0"])).1 =
      .error (.context (.violation (.lanes 0))) ∧
    (waiting.run (program (fun _ => none)
      ["--min-log-mcost", "32", "--max-log-mcost", "32", "--threads", "1"])).1 =
      .error (.invocation (.range ⟨twoTo 32, .unsigned⟩)) := by
  have shown (start points) : Shown waiting steady .unchanging start points :=
    ⟨fun _ _ => rfl, fun _ _ => ⟨0, rfl, Measure.cycles_zero⟩⟩
  have unordered : Options.ofTokens ["--min-log-mcost", "5", "--max-log-mcost", "4"] =
      .ok ⟨some 5, some 4, Grid.defaultThreads⟩ := by decide +kernel
  have unthreaded :
      Options.ofTokens ["--min-log-mcost", "4", "--max-log-mcost", "4", "--threads", "0"] =
        .ok ⟨some 4, some 4, [0]⟩ := by decide +kernel
  have wide :
      Options.ofTokens ["--min-log-mcost", "32", "--max-log-mcost", "32", "--threads", "1"] =
        .ok ⟨some 32, some 32, [1]⟩ := by decide +kernel
  have outside : Stops waiting steady .unchanging true waiting.position (16, 0)
      (.context (.violation (.lanes 0))) [] := .outside nofun (by decide)
  have raised : Stops waiting steady .unchanging true waiting.position (twoTo 32, 1)
      (.invocation (.range ⟨twoTo 32, .unsigned⟩)) _ := .raised nofun (by decide) (shown _ _) rfl
  obtain ⟨_, first⟩ := run_program_stopped settings_default unthreaded rfl waiting (by dsimp only)
    (rfl : Grid.build 4 4 [0] = .ok (Grid.ofPowers 4 4 [0])) rfl outside nofun
  obtain ⟨_, second⟩ := run_program_stopped settings_default wide rfl waiting (by dsimp only)
    (rfl : Grid.build 32 32 [1] = .ok (Grid.ofPowers 32 32 [1])) rfl raised nofun
  rw [run_program_unbuilt settings_default unordered rfl waiting rfl, first, second]
  exact ⟨rfl, rfl, rfl⟩

end Survey

end Argon2Workbench
