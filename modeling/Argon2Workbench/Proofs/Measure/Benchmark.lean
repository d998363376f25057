import Argon2Workbench.Proofs.Measure.Course
import Argon2Workbench.Proofs.Scenario.Timing
import Mathlib.Tactic.Choose

namespace Argon2Workbench

open CycleCounter (steady)
open Hash.Argon2 (Status Variant)

def Primitive.statusOf (primitive : Primitive) (call : Nat) : Status :=
  match primitive with
  | .real => Status.ok
  | .scripted status => status call

/-- Between the scenarios so many calls were advanced. Text was printed and records were
logged, none of them a warning. -/
structure Scenario.Advances (before after : Scenario) (calls : Nat) : Prop where
  writes : ∃ text noted, before.Writes after text noted ∧ ∀ record ∈ noted, record.level < .warning
  clock : after.clock = before.clock
  ticks : after.ticks = before.ticks
  primitive : after.primitive = before.primitive
  calls : after.calls = before.calls + calls

namespace Scenario.Advances

variable {before between after : Scenario} {first second : Nat}

theorem trans (advanced : before.Advances between first) (later : between.Advances after second) :
    before.Advances after (first + second) := by
  obtain ⟨text, noted, writes, mild⟩ := advanced.writes
  obtain ⟨following, last, writesLater, mildLater⟩ := later.writes
  refine ⟨⟨_, _, writes.trans writesLater, ?_⟩, later.clock.trans advanced.clock,
    later.ticks.trans advanced.ticks, later.primitive.trans advanced.primitive, ?_⟩
  · intro record member
    exact (List.mem_append.mp member).elim (mild record) (mildLater record)
  · rw [later.calls, advanced.calls, Nat.add_assoc]

theorem timed (advanced : before.Advances after first) (ready : before.Timed) : after.Timed := by
  constructor
  · rw [advanced.clock]
    exact ready.clock
  · rw [advanced.ticks]
    exact ready.ticks

end Scenario.Advances

/-- What has happened advances the calls that are among it, if no warning was logged. -/
theorem Scenario.Proceeds.advances {before after : Scenario} {happened : List Event} {text : Text}
    {noted : List Log.Record} (proceeds : before.Proceeds after happened text noted)
    (mild : ∀ record ∈ noted, record.level < .warning) {calls : Nat}
    (made : (before.position.behind happened).calls = before.calls + calls) :
    before.Advances after calls :=
  ⟨⟨text, noted, proceeds.writes, mild⟩, proceeds.clock, proceeds.ticks, proceeds.primitive,
    (congrArg Measure.Position.calls proceeds.position).trans made⟩

/-- The program ends with the failure, if there is one, and with a result if there is none. -/
def Scenario.Settles {Result : Type} (scenario : Scenario)
    (program : Host.Program Scenario.Run Result) (failure? : Option Hash.Argon2.Failure)
    (after : Scenario) : Prop :=
  match failure? with
  | some failure => scenario.run program = (.error (.status (.failed failure)), after)
  | none => ∃ result, scenario.run program = (.ok result, after)

theorem Numeral.isWritable_of_lt {value : Int} (small : value.natAbs < tenTo 10) :
    isWritable value = true := by
  have more : tenTo 10 ≤ tenTo digitLimit := tenTo_le_tenTo (by decide)
  exact decide_eq_true (Nat.lt_of_lt_of_le small more)

theorem Numeral.written_of_lt {value : Int} (small : value.natAbs < tenTo 10) :
    written value = .ok (toString value) := by
  rw [written, if_pos (isWritable_of_lt small)]

namespace Sample

structure Moderate (sample : Sample) : Prop where
  positive : 0 < sample.memory
  memory : sample.memory.natAbs < tenTo 10
  threads : sample.threads.natAbs < tenTo 10
  passes : sample.passes.natAbs < tenTo 10
  start : sample.startCycles.natAbs ≤ twoTo 65
  middle : sample.middleCycles.natAbs ≤ twoTo 65
  stop : sample.stopCycles.natAbs ≤ twoTo 65

variable {sample : Sample} (moderate : sample.Moderate)

include moderate

theorem cycles_rated (variant : Variant) {divisor : Int} (nonzero : divisor ≠ 0) :
    ∃ negative magnitude,
      Binary64.quotient (sample.cycles variant) divisor = .ok (.finite negative magnitude) := by
  cases variant with
  | d => exact Binary64.quotient_between moderate.start moderate.middle nonzero
  | i => exact Binary64.quotient_between moderate.middle moderate.stop nonzero

theorem heading_ok : ∃ heading, sample.heading = .ok heading := by
  have quotient : (sample.memory.fdiv 1024).natAbs < tenTo 10 := by
    have positive := moderate.positive
    have small := moderate.memory
    rw [Int.fdiv_eq_ediv_of_nonneg _ (by decide)]
    omega
  rw [heading, Numeral.written_of_lt moderate.passes, ok_bind, Numeral.written_of_lt quotient,
    ok_bind, Numeral.written_of_lt moderate.threads, ok_bind]
  exact ⟨_, rfl⟩

theorem report_ok : ∃ report, sample.report = .ok report := by
  have memory : sample.memory ≠ 0 := by
    have positive := moderate.positive
    omega
  obtain ⟨_, _, perByteD⟩ := cycles_rated moderate .d memory
  have unit : ((twoTo 20 : Nat) : Int) ≠ 0 := by decide
  obtain ⟨_, _, megacyclesD⟩ := cycles_rated moderate .d unit
  obtain ⟨_, _, perByteI⟩ := cycles_rated moderate .i memory
  obtain ⟨_, _, megacyclesI⟩ := cycles_rated moderate .i unit
  obtain ⟨heading, headed⟩ := heading_ok moderate
  rw [report, cyclesPerByte, perByteD, cyclesPerByte, perByteI, Sample.megacycles, megacyclesD,
    Sample.megacycles, megacyclesI, headed]
  exact ⟨_, rfl⟩

end Sample

namespace Context

/-- A call on the context succeeds, if anything is called. -/
structure Measurable [Machine] (context : Context) : Prop where
  fits : context.unmarshallable? = none
  plain : context.customAllocator = false
  outcome : context.inputs.outcome = Status.ok

variable [Machine] {context : Context} (measurable : context.Measurable)

include measurable

theorem Measurable.rewritten (written : Bytes) : ({ context with written } : Context).Measurable :=
  ⟨measurable.fits, measurable.plain, measurable.outcome⟩

theorem Measurable.answer (primitive : Primitive) (call : Nat) (variant : Variant) :
    (primitive.answer call context variant).result = .ok (primitive.statusOf call) ∧
      ∀ record ∈ (primitive.answer call context variant).log, record.level < .warning := by
  cases primitive with
  | scripted status => exact ⟨rfl, nofun⟩
  | real =>
      have answered : context.status {} = ({}, Status.ok, []) := by
        rw [status_default measurable.plain, measurable.outcome]
      rw [Primitive.answer, invoke_unrecorded measurable.fits answered]
      refine ⟨rfl, fun record member => ?_⟩
      rw [List.append_nil] at member
      rw [level_raisedLog context variant record member]
      decide

end Context

namespace Measure

variable {scenario : Scenario}

def failureAt? (primitive : Primitive) (call : Nat) : Option Hash.Argon2.Failure :=
  if primitive.statusOf call ≠ Status.ok then some ⟨primitive.statusOf call, .d⟩
  else if primitive.statusOf (call + 1) ≠ Status.ok then some ⟨primitive.statusOf (call + 1), .i⟩
  else none

theorem failureAt?_eq_none_iff {primitive : Primitive} {call : Nat} :
    failureAt? primitive call = none ↔
      primitive.statusOf call = Status.ok ∧ primitive.statusOf (call + 1) = Status.ok := by
  by_cases first : primitive.statusOf call = Status.ok
  · by_cases second : primitive.statusOf (call + 1) = Status.ok
    · simp [failureAt?, first, second]
    · simp [failureAt?, first, second]
  · simp [failureAt?, first]

theorem status_of_failureAt? {primitive : Primitive} {call : Nat} {failure : Hash.Argon2.Failure}
    (failed : failureAt? primitive call = some failure) :
    ∃ index, failure.status = primitive.statusOf index := by
  unfold failureAt? at failed
  split at failed
  · exact ⟨call, by rw [← Option.some.inj failed]⟩
  · split at failed
    · exact ⟨call + 1, by rw [← Option.some.inj failed]⟩
    · contradiction

/-- The context of a point can be built, and calls on it can succeed. -/
structure Point [Machine] (point : Nat × Int) : Prop where
  built : (Request.measurement point.1 point.2).build = .ok (contextAt point)
  measurable : (contextAt point).Measurable
  positive : 0 < point.1
  memory : point.1 < tenTo 10
  threads : point.2.natAbs < tenTo 10

theorem readings_of_timed [Machine] (ready : scenario.Timed) :
    ∃ readings : Readings, (∀ index, (readings.cycles index).natAbs ≤ twoTo 65) ∧
      ∀ start points, Shown scenario .steady readings start points := by
  choose times read using ready.clock
  choose ticks cycles ticked counted small using CycleCounter.cycles_steady ready
  exact ⟨⟨times, cycles⟩, small, fun start points =>
    ⟨fun _ _ => read _, fun _ _ => ⟨_, ticked _, counted _⟩⟩⟩

namespace Point

variable [Machine] {point : Nat × Int} (inside : Point point)

include inside

theorem answered (primitive : Primitive) (position : Position) :
    Answered primitive position point (primitive.statusOf position.calls)
      (primitive.statusOf (position.calls + 1)) :=
  ⟨(inside.measurable.answer primitive _ .d).1,
    ((inside.measurable.rewritten _).answer primitive _ .i).1⟩

theorem recorded : ∃ record, pointRecord point.1 point.2 = .ok record ∧
    record.level < Log.Level.warning := by
  have memory : (point.1 : Int).natAbs < tenTo 10 := inside.memory
  rw [pointRecord, Numeral.written_of_lt memory, ok_bind, Numeral.written_of_lt inside.threads,
    ok_bind]
  exact ⟨_, rfl, show Log.Level.debug < Log.Level.warning by decide⟩

theorem notes (scenario : Scenario) : Notes scenario point := by
  intro _
  obtain ⟨record, recorded, -⟩ := inside.recorded
  exact ⟨record, recorded⟩

theorem pointLog_mild (primitive : Primitive) (position : Position) :
    ∀ record ∈ pointLog primitive position point, record.level < .warning := by
  intro record member
  rcases List.mem_append.mp member with noted | called
  · obtain ⟨note, recorded, mild⟩ := inside.recorded
    rw [pointNote, recorded] at noted
    rw [List.mem_singleton.mp noted]
    exact mild
  · rcases List.mem_append.mp called with first | second
    · exact (inside.measurable.answer primitive _ .d).2 record first
    · exact ((inside.measurable.rewritten _).answer primitive _ .i).2 record second

end Point

theorem run_point [Machine] (scenario : Scenario) {point : Nat × Int} (inside : Point point)
    (ready : scenario.Timed)
    (words : ∀ call, WordType.signed.holds 32 (scenario.primitive.statusOf call) = true) :
    ∃ after, scenario.Advances after 2 ∧
      scenario.Settles (Measure.point .steady true point.1 point.2)
        (failureAt? scenario.primitive scenario.calls) after := by
  obtain ⟨readings, small, shown⟩ := readings_of_timed ready
  have answered := inside.answered scenario.primitive scenario.position
  have mild := inside.pointLog_mild scenario.primitive scenario.position
  cases failed : failureAt? scenario.primitive scenario.calls with
  | some failure =>
      obtain ⟨after, proceeds, ran⟩ := run_point_failed (inside.notes scenario) inside.built
        (shown _ 1) true answered failed
      obtain ⟨call, same⟩ := status_of_failureAt? failed
      have representable : failure.representable = true := by
        rw [Hash.Argon2.Failure.representable, same]
        exact words call
      rw [Hash.Argon2.Failure.error, if_pos representable] at ran
      exact ⟨after, proceeds.advances mild rfl, ran⟩
  | none =>
      obtain ⟨okD, okI⟩ := failureAt?_eq_none_iff.mp failed
      change Answered _ _ _ (scenario.primitive.statusOf scenario.calls)
        (scenario.primitive.statusOf (scenario.calls + 1)) at answered
      rw [okD, okI] at answered
      have moderate : (readings.sample scenario.position point Status.ok Status.ok).Moderate :=
        ⟨Int.ofNat_lt.mpr inside.positive, inside.memory, inside.threads,
          show 1 < tenTo 10 by decide, small _, small _, small _⟩
      obtain ⟨report, written⟩ := Sample.report_ok moderate
      obtain ⟨after, proceeds, ran⟩ := run_point_passed (inside.notes scenario) inside.built
        (shown _ 1) answered (.printed written)
      exact ⟨after, proceeds.advances mild rfl, _, ran⟩

def firstFailure? (primitive : Primitive) (call : Nat) : Nat → Option Hash.Argon2.Failure
  | 0 => none
  | points + 1 => (failureAt? primitive call).or (firstFailure? primitive (call + 2) points)

theorem run_points [Machine] (scenario : Scenario) (points : List (Nat × Int))
    (inside : ∀ point ∈ points, Point point) (ready : scenario.Timed)
    (words : ∀ call, WordType.signed.holds 32 (scenario.primitive.statusOf call) = true) :
    ∃ after calls, scenario.Advances after calls ∧
      scenario.Settles (measureAll steady true points)
        (firstFailure? scenario.primitive scenario.calls points.length) after := by
  induction points generalizing scenario with
  | nil => exact ⟨scenario, 0, ⟨⟨[], [], .refl _, by simp⟩, rfl, rfl, rfl, rfl⟩, [], rfl⟩
  | cons head rest ih =>
      obtain ⟨between, advanced, measured⟩ :=
        run_point scenario (inside head List.mem_cons_self) ready words
      rw [measureAll_cons, List.length_cons, firstFailure?]
      cases failed : failureAt? scenario.primitive scenario.calls with
      | some failure =>
          simp only [Scenario.Settles, failed] at measured
          refine ⟨between, 2, advanced, ?_⟩
          rw [Option.some_or]
          exact Scenario.run_bind_error _ measured
      | none =>
          simp only [Scenario.Settles, failed] at measured
          obtain ⟨sample, measured⟩ := measured
          have others : ∀ point ∈ rest, Point point := fun point member =>
            inside point (List.mem_cons_of_mem head member)
          have same : ∀ call, WordType.signed.holds 32 (between.primitive.statusOf call) = true := by
            rwa [advanced.primitive]
          obtain ⟨after, calls, following, ran⟩ := ih between others (advanced.timed ready) same
          rw [advanced.primitive, advanced.calls] at ran
          refine ⟨after, 2 + calls, advanced.trans following, ?_⟩
          rw [Option.none_or]
          cases later : firstFailure? scenario.primitive (scenario.calls + 2) rest.length with
          | some failure =>
              simp only [Scenario.Settles, later] at ran ⊢
              rw [Scenario.run_bind_ok _ measured, Scenario.run_bind_error _ ran]
          | none =>
              simp only [Scenario.Settles, later] at ran ⊢
              obtain ⟨samples, ran⟩ := ran
              refine ⟨sample :: samples, ?_⟩
              rw [Scenario.run_bind_ok _ measured, Scenario.run_bind_ok _ ran]
              rfl

theorem firstFailure?_eq_none_iff {primitive : Primitive} {call points : Nat} :
    firstFailure? primitive call points = none ↔
      ∀ index < 2 * points, primitive.statusOf (call + index) = Status.ok := by
  induction points generalizing call with
  | zero => simp [firstFailure?]
  | succ points ih =>
      rw [firstFailure?, Option.or_eq_none_iff, failureAt?_eq_none_iff, ih]
      constructor
      · rintro ⟨⟨first, second⟩, rest⟩ index inside
        match index with
        | 0 => exact first
        | 1 => exact second
        | index + 2 =>
            have later := rest index (by omega)
            rwa [Nat.add_assoc, Nat.add_comm 2 index] at later
      · intro every
        refine ⟨⟨every 0 (by omega), every 1 (by omega)⟩, fun index inside => ?_⟩
        rw [Nat.add_assoc, Nat.add_comm 2 index]
        exact every (index + 2) (by omega)

theorem point_of_power [Machine] {exponent lanes : Nat} (exponentFit : exponent ≤ 22)
    (lanesFit : 1 ≤ lanes ∧ lanes ≤ twoTo 19) : Point (twoTo exponent, lanes) := by
  have memoryFit := twoTo_le_twoTo exponentFit
  have positive := twoTo_pos exponent
  have sizes : twoTo 19 = 524288 ∧ twoTo 22 = 4194304 ∧ tenTo 10 = 10000000000 ∧
      maxLanes = 16777215 := by decide
  constructor
  · exact Request.build_measurement (by omega)
  · exact ⟨Request.measurement_unmarshallable? (by omega) (by omega), rfl,
      Request.measurement_outcome exponentFit lanesFit.2⟩
  · omega
  · omega
  · omega

theorem point_of_standard [Machine] {point : Nat × Int} (member : point ∈ Grid.standard.points) :
    Point point := by
  obtain ⟨memory, costs, counted⟩ := List.mem_flatMap.mp member
  obtain ⟨threads, counts, rfl⟩ := List.mem_map.mp counted
  obtain ⟨exponent, powers, rfl⟩ := List.mem_map.mp costs
  have small : exponent ≤ 22 := by
    obtain ⟨offset, inside, rfl⟩ := List.mem_range'.mp powers
    have bounds : Grid.minPower.toNat = 10 ∧ Grid.maxPower.toNat = 22 := by decide
    omega
  have narrow : ∀ threads ∈ Grid.defaultThreads,
      (1 ≤ threads.toNat ∧ threads.toNat ≤ twoTo 19) ∧ threads = threads.toNat := by decide
  obtain ⟨fits, same⟩ := narrow threads counts
  rw [same]
  exact point_of_power small fits

/-- A benchmark of the standard grid is over with the first call that fails. -/
theorem run_benchmark [Machine] (scenario : Scenario) (ready : scenario.Timed)
    (words : ∀ call, WordType.signed.holds 32 (scenario.primitive.statusOf call) = true) :
    ∃ after calls, scenario.Advances after calls ∧
      scenario.Settles (benchmark (some .standard) steady true)
        (firstFailure? scenario.primitive scenario.calls Grid.standard.size) after := by
  have chosen : Grid.chosen (some .standard) = .standard := by decide
  obtain ⟨between, logged, started⟩ :=
    run_benchmark_started scenario (some .standard) steady true
  rw [chosen] at logged started
  have noted : scenario.Advances between 0 := by
    refine logged.advances (fun record member => ?_) rfl
    rw [List.mem_singleton.mp member]
    exact show Log.Level.info < Log.Level.warning by decide
  obtain ⟨after, calls, advanced, ran⟩ :=
    run_points between Grid.standard.points (fun _ => point_of_standard) (noted.timed ready)
      (noted.primitive ▸ words)
  rw [Grid.length_points, noted.primitive, noted.calls] at ran
  refine ⟨after, 0 + calls, noted.trans advanced, ?_⟩
  unfold Scenario.Settles at ran ⊢
  rw [started]
  exact ran

end Measure

end Argon2Workbench
