import Argon2Workbench.Proofs.Measure.Reading

namespace Argon2Workbench

open Hash.Argon2 (Failure Status StatusError Variant)

namespace Hash.Argon2

/-- A status without a text is reported as the value that it is. -/
def Failure.error (failure : Failure) : StatusError :=
  if failure.representable then .failed failure else .range ⟨failure.status, .signed⟩

theorem Status.check_eq_error {status : Status} {variant : Variant} (failed : status ≠ ok) :
    status.check variant = .error (Failure.error { status, variant }) := by
  rw [check, if_neg failed, Failure.error]
  split <;> rfl

end Hash.Argon2

namespace Measure

variable {scenario : Scenario}

def contextAt (point : Nat × Int) : Context :=
  (Request.measurement point.1 point.2).context

/-- The context of a point once more, its output as the first call has left it. -/
def contextBetween [Machine] (primitive : Primitive) (position : Position)
    (point : Nat × Int) : Context :=
  { contextAt point with
    written := (primitive.answer position.calls (contextAt point) .d).context.written }

def steps [Machine] (primitive : Primitive) (position : Position)
    (point : Nat × Int) : List Event :=
  [.clock position.clock,
   .ticks position.ticks,
   .call (contextAt point) .d,
   .ticks (position.ticks + 1),
   .call (contextBetween primitive position point) .i,
   .ticks (position.ticks + 2),
   .clock (position.clock + 1)]

def opening (position : Position) (point : Nat × Int) : List Event :=
  [.clock position.clock, .ticks position.ticks, .call (contextAt point) .d]

def callLog [Machine] (primitive : Primitive) (position : Position)
    (point : Nat × Int) : List Log.Record :=
  (primitive.answer position.calls (contextAt point) .d).log ++
    (primitive.answer (position.calls + 1) (contextBetween primitive position point) .i).log

structure Answered [Machine] (primitive : Primitive) (position : Position) (point : Nat × Int)
    (statusD statusI : Status) : Prop where
  first : (primitive.answer position.calls (contextAt point) .d).result = .ok statusD
  second : (primitive.answer (position.calls + 1) (contextBetween primitive position point)
    .i).result = .ok statusI

def Readings.sample (readings : Readings) (position : Position) (point : Nat × Int)
    (statusD statusI : Status) : Sample :=
  { memory := point.1
    threads := point.2
    passes := 1
    startCycles := readings.cycles position.ticks
    middleCycles := readings.cycles (position.ticks + 1)
    stopCycles := readings.cycles (position.ticks + 2)
    startTime := readings.times position.clock
    stopTime := readings.times (position.clock + 1)
    statusD
    statusI }

def checked (sample : Sample) : Host.Program Scenario.Run Sample := do
  Host.orFault .status (sample.statusD.check .d)
  Host.orFault .status (sample.statusI.check .i)
  return sample

def reported [Machine] (reporting : Bool) (sample : Sample) : Host.Program Scenario.Run Sample := do
  if reporting then
    let report ← Host.orFault .sample sample.report
    (Host.print report : Scenario.Run Unit)
  return sample

theorem plain_contextAt (point : Nat × Int) : (contextAt point).Plain :=
  ⟨rfl, rfl⟩

theorem plain_contextBetween [Machine] (primitive : Primitive) (position : Position)
    (point : Nat × Int) :
    (contextBetween primitive position point).Plain :=
  (plain_contextAt point).rewritten _

theorem steps_after [Machine] (primitive : Primitive) (position : Position) (point : Nat × Int) :
    position.behind (steps primitive position point) = position.after 1 :=
  rfl

/-- All seven steps are taken whatever the statuses are, which are looked at last. -/
theorem run_sample_checked [Machine] {counter : CycleCounter} {readings : Readings}
    {point : Nat × Int}
    {statusD statusI : Status}
    (built : (Request.measurement point.1 point.2).build = .ok (contextAt point))
    (shown : Shown scenario counter readings scenario.position 1)
    (answered : Answered scenario.primitive scenario.position point statusD statusI) :
    ∃ after,
      scenario.Proceeds after (steps scenario.primitive scenario.position point) []
        (callLog scenario.primitive scenario.position point) ∧
      scenario.run (sample point.1 point.2 counter) =
        after.run (checked (readings.sample scenario.position point statusD statusI)) := by
  have first := plain_contextAt point
  have second := plain_contextBetween scenario.primitive scenario.position point
  obtain ⟨_, started, reached⟩ := run_clock_shown (.refl scenario) 0 shown rfl (by decide)
  obtain ⟨_, startCycles, reached⟩ := run_cycles_shown reached 0 shown rfl (by decide)
  obtain ⟨_, calledD, reached⟩ := run_call_answered reached 0 first rfl answered.first
  obtain ⟨_, middleCycles, reached⟩ := run_cycles_shown reached 1 shown rfl (by decide)
  obtain ⟨_, calledI, reached⟩ := run_call_answered reached 1 second rfl answered.second
  obtain ⟨_, stopCycles, reached⟩ := run_cycles_shown reached 2 shown rfl (by decide)
  obtain ⟨_, stopped, reached⟩ := run_clock_shown reached 1 shown rfl (by decide)
  rw [Nat.add_zero, first.context_answer] at calledD
  refine ⟨_, reached, ?_⟩
  rw [sample, built, Scenario.run_bind_ok _ (Scenario.run_orFault_ok _ _ _),
    Scenario.run_bind_ok _ started, Scenario.run_bind_ok _ startCycles,
    Scenario.run_bind_ok _ calledD]
  dsimp only
  rw [Scenario.run_bind_ok _ middleCycles, ← contextBetween, Scenario.run_bind_ok _ calledI]
  dsimp only
  rw [Scenario.run_bind_ok _ stopCycles, Scenario.run_bind_ok _ stopped]
  rfl

theorem run_sample_raised [Machine] {counter : CycleCounter} {readings : Readings}
    {point : Nat × Int}
    {error : InvocationError}
    (built : (Request.measurement point.1 point.2).build = .ok (contextAt point))
    (shown : Shown scenario counter readings scenario.position 1)
    (raised : (scenario.primitive.answer scenario.position.calls (contextAt point) .d).result =
      .error error) :
    ∃ after noted, scenario.Proceeds after (opening scenario.position point) [] noted ∧
      scenario.run (sample point.1 point.2 counter) = (.error (.invocation error), after) := by
  obtain ⟨_, started, reached⟩ := run_clock_shown (.refl scenario) 0 shown rfl (by decide)
  obtain ⟨_, startCycles, reached⟩ := run_cycles_shown reached 0 shown rfl (by decide)
  obtain ⟨_, _, calledD, reached⟩ := run_call_raised reached (plain_contextAt point) raised
  refine ⟨_, _, reached, ?_⟩
  rw [sample, built, Scenario.run_bind_ok _ (Scenario.run_orFault_ok _ _ _),
    Scenario.run_bind_ok _ started, Scenario.run_bind_ok _ startCycles,
    Scenario.run_bind_error _ calledD]

/-- A second call is not refused what a first was let pass with. -/
theorem answered_or_raised [Machine] (primitive : Primitive) (position : Position)
    (point : Nat × Int) :
    (∃ statusD statusI, Answered primitive position point statusD statusI) ∨
      ∃ error, (primitive.answer position.calls (contextAt point) .d).result = .error error := by
  cases primitive with
  | scripted status => exact .inl ⟨_, _, rfl, rfl⟩
  | real =>
      cases fits : (contextAt point).unmarshallable? with
      | some error => exact .inr (Context.result_error_iff.mpr ⟨error, fits⟩)
      | none => exact .inl ⟨_, _, Context.result_of_fits fits, Context.result_of_fits fits⟩

def firstFailed? (statusD statusI : Status) : Option Failure :=
  if statusD ≠ Status.ok then some ⟨statusD, .d⟩
  else if statusI ≠ Status.ok then some ⟨statusI, .i⟩
  else none

theorem run_checked (scenario : Scenario) (sample : Sample) :
    scenario.run (checked sample) =
      match firstFailed? sample.statusD sample.statusI with
      | some failure => (.error (.status failure.error), scenario)
      | none => (.ok sample, scenario) := by
  by_cases okD : sample.statusD = Status.ok
  · rw [checked, okD, Status.check_ok, Scenario.run_bind_ok _ (Scenario.run_orFault_ok _ _ _)]
    by_cases okI : sample.statusI = Status.ok
    · rw [okI, Status.check_ok, Scenario.run_bind_ok _ (Scenario.run_orFault_ok _ _ _)]
      rfl
    · rw [Status.check_eq_error okI, Scenario.run_bind_error _ (Scenario.run_orFault_error _ _ _),
        firstFailed?, if_neg (not_not_intro rfl), if_pos okI]
  · rw [checked, Status.check_eq_error okD,
      Scenario.run_bind_error _ (Scenario.run_orFault_error _ _ _), firstFailed?, if_pos okD]

inductive Reported : Bool → Sample → Text → Prop
  | silent (sample : Sample) : Reported false sample []
  | printed {sample : Sample} {report : String} (written : sample.report = .ok report) :
      Reported true sample report

/-- A record of the point that must not be lost can be written. -/
def Notes (scenario : Scenario) (point : Nat × Int) : Prop :=
  scenario.exacting.any (· ≤ Log.Level.debug) = true →
    ∃ record, pointRecord point.1 point.2 = .ok record

def pointNote (point : Nat × Int) : List Log.Record :=
  (pointRecord point.1 point.2).toOption.toList

theorem run_noted [Machine] {point : Nat × Int} (notes : Notes scenario point) :
    scenario.run (Host.noteWritten .debug (pointRecord point.1 point.2)) =
      (.ok (), scenario.logged (pointNote point)) := by
  cases recorded : pointRecord point.1 point.2 with
  | ok record =>
      rw [pointNote, recorded]
      exact Scenario.run_note scenario [record]
  | error error =>
      have lenient : scenario.exacting.any (· ≤ Log.Level.debug) = false := by
        apply Bool.eq_false_iff.mpr
        intro exacting
        obtain ⟨record, written⟩ := notes exacting
        exact nomatch recorded.symm.trans written
      rw [Host.noteWritten, Scenario.run_bind_ok _ (Scenario.run_lift scenario _), pointNote,
        recorded]
      change scenario.run (if scenario.exacting.any (· ≤ Log.Level.debug) then _ else _) = _
      rw [lenient, Except.toOption, Option.toList_none, Scenario.logged_nil]
      rfl

def pointLog [Machine] (primitive : Primitive) (position : Position)
    (point : Nat × Int) : List Log.Record :=
  pointNote point ++ callLog primitive position point

variable {counter : CycleCounter} {readings : Readings} {reporting : Bool} {point : Nat × Int}
  {statusD statusI : Status}

theorem run_point_unnoted [Machine] {error : Numeral.DigitsError}
    (exacting : scenario.exacting.any (· ≤ Log.Level.debug) = true)
    (unwritten : pointRecord point.1 point.2 = .error error) :
    scenario.run (Measure.point counter reporting point.1 point.2) =
      (.error (.digits error), scenario) := by
  have stopped : scenario.run (Host.noteWritten .debug (pointRecord point.1 point.2)) =
      (.error (.digits error), scenario) := by
    rw [unwritten, Host.noteWritten, Scenario.run_bind_ok _ (Scenario.run_lift scenario _)]
    change scenario.run (if scenario.exacting.any (· ≤ Log.Level.debug) then _ else _) = _
    rw [exacting]
    rfl
  rw [Measure.point, Scenario.run_bind_error _ stopped]

section

variable (notes : Notes scenario point)

include notes

/-- Where a point cannot be built, nothing is read and nothing called. -/
theorem run_point_unbuilt [Machine] {error : BuildError}
    (refused : (Request.measurement point.1 point.2).build = .error error) :
    scenario.run (Measure.point counter reporting point.1 point.2) =
      (.error (.context error), scenario.logged (pointNote point)) := by
  have stopped : (scenario.logged (pointNote point)).run (sample point.1 point.2 counter) =
      (.error (.context error), scenario.logged (pointNote point)) := by
    rw [sample, refused]
    exact Scenario.run_bind_error _ (Scenario.run_orFault_error _ _ _)
  rw [Measure.point, Scenario.run_bind_ok _ (run_noted notes), Scenario.run_bind_error _ stopped]

variable [Machine] (built : (Request.measurement point.1 point.2).build = .ok (contextAt point))
  (shown : Shown scenario counter readings scenario.position 1)

include built shown

theorem run_point_raised {error : InvocationError}
    (raised : (scenario.primitive.answer scenario.position.calls (contextAt point) .d).result =
      .error error) :
    ∃ after noted, scenario.Proceeds after (opening scenario.position point) [] noted ∧
      scenario.run (Measure.point counter reporting point.1 point.2) =
        (.error (.invocation error), after) := by
  have logged := Scenario.Proceeds.logged scenario (pointNote point)
  have later : Shown (scenario.logged (pointNote point)) counter readings
    (scenario.logged (pointNote point)).position 1 := shown.later logged
  obtain ⟨after, noted, proceeds, ran⟩ := run_sample_raised built later raised
  refine ⟨after, _, logged.trans proceeds, ?_⟩
  rw [Measure.point, Scenario.run_bind_ok _ (run_noted notes), Scenario.run_bind_error _ ran]

/-- Up to the verdict every point goes the same way. -/
theorem run_point_checked (reporting : Bool)
    (answered : Answered scenario.primitive scenario.position point statusD statusI) :
    ∃ after,
      scenario.Proceeds after (steps scenario.primitive scenario.position point) []
        (pointLog scenario.primitive scenario.position point) ∧
      scenario.run (Measure.point counter reporting point.1 point.2) =
        after.run (checked (readings.sample scenario.position point statusD statusI) >>=
          reported reporting) := by
  have logged := Scenario.Proceeds.logged scenario (pointNote point)
  have later : Shown (scenario.logged (pointNote point)) counter readings
    (scenario.logged (pointNote point)).position 1 := shown.later logged
  obtain ⟨after, proceeds, ran⟩ := run_sample_checked built later answered
  refine ⟨after, logged.trans proceeds, ?_⟩
  rw [Measure.point, Scenario.run_bind_ok _ (run_noted notes), Scenario.run_bind, ran,
    ← Scenario.run_bind]
  rfl

theorem run_point_failed (reporting : Bool) {failure : Failure}
    (answered : Answered scenario.primitive scenario.position point statusD statusI)
    (failed : firstFailed? statusD statusI = some failure) :
    ∃ after,
      scenario.Proceeds after (steps scenario.primitive scenario.position point) []
        (pointLog scenario.primitive scenario.position point) ∧
      scenario.run (Measure.point counter reporting point.1 point.2) =
        (.error (.status failure.error), after) := by
  obtain ⟨after, proceeds, ran⟩ := run_point_checked notes built shown reporting answered
  have stopped := run_checked after (readings.sample scenario.position point statusD statusI)
  change _ = (match firstFailed? statusD statusI with
    | some failure => _
    | none => _) at stopped
  rw [failed] at stopped
  exact ⟨after, proceeds, ran.trans (Scenario.run_bind_error _ stopped)⟩

variable (answered : Answered scenario.primitive scenario.position point Status.ok Status.ok)

include answered

theorem run_point_unreported {error : Sample.Error}
    (unwritten : (readings.sample scenario.position point Status.ok Status.ok).report =
      .error error) :
    ∃ after,
      scenario.Proceeds after (steps scenario.primitive scenario.position point) []
        (pointLog scenario.primitive scenario.position point) ∧
      scenario.run (Measure.point counter true point.1 point.2) = (.error (.sample error), after) := by
  obtain ⟨after, proceeds, ran⟩ := run_point_checked notes built shown true answered
  refine ⟨after, proceeds, ran.trans ?_⟩
  rw [Scenario.run_bind_ok _ (run_checked after _), reported, if_pos rfl, unwritten]
  exact Scenario.run_bind_error _ (Scenario.run_orFault_error _ _ _)

theorem run_point_passed {text : Text}
    (printed : Reported reporting (readings.sample scenario.position point Status.ok Status.ok)
      text) :
    ∃ after,
      scenario.Proceeds after (steps scenario.primitive scenario.position point) text
        (pointLog scenario.primitive scenario.position point) ∧
      scenario.run (Measure.point counter reporting point.1 point.2) =
        (.ok (readings.sample scenario.position point Status.ok Status.ok), after) := by
  obtain ⟨after, proceeds, ran⟩ := run_point_checked notes built shown reporting answered
  have passed := Scenario.run_bind_ok (reported reporting) (run_checked after
    (readings.sample scenario.position point Status.ok Status.ok))
  cases printed with
  | silent => exact ⟨after, proceeds, ran.trans passed⟩
  | @printed _ report written =>
      have ended := proceeds.trans (.printed after report)
      rw [List.append_nil, List.append_nil] at ended
      refine ⟨_, ended, ran.trans (passed.trans ?_)⟩
      rw [reported, if_pos rfl, written, Scenario.run_bind_ok _ (Scenario.run_orFault_ok _ _ _),
        Scenario.run_bind_ok _ (Scenario.run_print _ _)]
      rfl

end

end Measure

end Argon2Workbench
