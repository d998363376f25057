import Argon2Workbench.Proofs.Measure.Benchmark
import Argon2Workbench.Proofs.Session.Report
import Argon2Workbench.Proofs.Session.Vectors

namespace Argon2Workbench

open CommandLine (Asked Line Mode Parameters Token)
open Hash.Argon2 (Failure Status)

namespace Session

/-- The session exits with status zero. Besides what it prints it has written nothing but
the records that it has logged, and no record is a warning. -/
structure Succeeds (before : Scenario) (status : Nat) (after : Scenario) : Prop where
  status : status = 0
  complaints : ∃ records, after.records = before.records ++ records ∧
    (∀ record ∈ records, record.level < .warning) ∧
    after.complaints = before.complaints ++
      records.flatMap (before.configured.stream.written before.stamp)

/-- The session exits with status one. The text is all that it has printed, and its last
complaint is the message. -/
structure Fails (before : Scenario) (text message : Text) (status : Nat) (after : Scenario) :
    Prop where
  status : status = 1
  output : after.output = before.output ++ text
  complaints : ∃ records, after.records = before.records ++ records ∧
    after.complaints = before.complaints ++
      records.flatMap (before.configured.stream.written before.stamp) ++
      (Text.ofString "error: " ++ message ++ Text.ofString "\n")

/-- How a session exits that has accepted a command line, mode by mode. -/
inductive Exits [Machine] (before : Scenario) (asked : Asked) (status : Nat) (after : Scenario) :
    Mode → Prop
  | hashed (runnable : asked.Runnable) (succeeds : Succeeds before status after) :
      Exits before asked status after .run
  | refused {fault : Fault} (stuck : ¬ asked.Runnable) (faulty : asked.fault? = some fault)
      (fails : Fails before [] fault.message status after) : Exits before asked status after .run
  | recorded (named : asked.variant? ≠ none) (succeeds : Succeeds before status after) :
      Exits before asked status after .generate
  | unnamed (unnamed : asked.variant? = none)
      (fails : Fails before [] "wrong Argon2 type" status after) :
      Exits before asked status after .generate
  | measured
      (every : ∀ index < 2 * Grid.standard.size,
        before.primitive.statusOf (before.calls + index) = Status.ok)
      (succeeds : Succeeds before status after) : Exits before asked status after .benchmark
  | stopped {text : Text} {failure : Failure}
      (failed : Measure.firstFailure? before.primitive before.calls Grid.standard.size =
        some failure)
      (fails : Fails before text (Fault.status (.failed failure)).message status after) :
      Exits before asked status after .benchmark

variable {scenario : Scenario}

/-- No record that is less than a warning is written on a stream that nobody had set up. -/
theorem Succeeds.silent {status : Nat} {after : Scenario} (succeeds : Succeeds scenario status after)
    (fresh : scenario.stream.handlers = []) : after.complaints = scenario.complaints := by
  obtain ⟨records, -, mild, complaints⟩ := succeeds.complaints
  have opened : scenario.configured.stream = { level := .warning, handlers := [.plain] } := by
    change scenario.stream.opened = _
    rw [Log.Stream.opened, fresh]
    rfl
  have silent : records.flatMap (scenario.configured.stream.written scenario.stamp) = [] := by
    rw [List.flatMap_eq_nil_iff]
    intro record member
    have below : ¬ Log.Level.warning ≤ record.level := Int.not_le.mpr (mild record member)
    have shut : scenario.configured.stream.admits record.level = false := by
      rw [opened, Log.Stream.admits, decide_eq_false below, Bool.and_false]
    rw [Log.Stream.written, shut]
    rfl
  rw [complaints, silent, List.append_nil]

theorem mild_of_informed {records : List Log.Record}
    (informed : ∀ record ∈ records, record.level = .info) :
    ∀ record ∈ records, record.level < .warning := by
  intro record member
  rw [informed record member]
  decide

theorem ended_ok {between : Scenario} {text : Text} {records : List Log.Record}
    (writes : scenario.configured.Writes between text records)
    (mild : ∀ record ∈ records, record.level < .warning) :
    ∃ after, between.ended (.ok ()) = (.ok 0, after) ∧ Succeeds scenario 0 after :=
  ⟨between, rfl, rfl, records, writes.records, mild, writes.complaints⟩

theorem ended_error {between : Scenario} {text : Text} {records : List Log.Record} {fault : Fault}
    (writes : scenario.configured.Writes between text records)
    (reported : fault.isReported = true) :
    ∃ after, between.ended (.error fault) = (.ok 1, after) ∧
      Fails scenario text fault.message 1 after := by
  let last : Log.Record :=
    { level := .debug, logger, message := Text.ofString "fatal: " ++ fault.message }
  have following := writes.trans (.logged between [last])
  refine ⟨between.reported fault, by rw [Scenario.ended, if_pos reported], rfl, ?_,
    records ++ [last], following.records, ?_⟩
  · have output := following.output
    rw [List.append_nil] at output
    exact output
  · change (between.logged [last]).complaints ++ _ = _
    rw [following.complaints]
    rfl

def performing (scenario : Scenario) (path : Text) (parameters : Parameters) : Scenario :=
  (scenario.begun path).logged [parameters.log]

theorem writes_performing (scenario : Scenario) (path : Text) (parameters : Parameters) :
    ∃ records, scenario.configured.Writes (performing scenario path parameters) [] records ∧
      ∀ record ∈ records, record.level < .warning := by
  obtain ⟨noted, writes, informed⟩ := Scenario.writes_cleared scenario.configured path
  refine ⟨_, writes.trans (.logged _ [parameters.log]), ?_⟩
  intro record member
  rcases List.mem_append.mp member with early | late
  · exact mild_of_informed informed record early
  · rw [List.mem_singleton.mp late]
    exact (by decide : Log.Level.debug < Log.Level.warning)

theorem performing_timed {path : Text} {parameters : Parameters} (ready : scenario.Timed) :
    (performing scenario path parameters).Timed :=
  ⟨ready.clock, ready.ticks⟩

section

variable {lookup : String → Option Text} {grid : Except Grid.Error Grid} {path : Text}
  {rate : Binary64} {tokens : List Token} {parameters : Parameters} {between : Scenario}
  {text : Text} {records : List Log.Record}
  (settings : Settings.ofEnvironment lookup = .ok { recordPath := path, gigahertz := rate })
  (removable : scenario.files.Removable path) (given : tokens ≠ [])
  (accepted : Parameters.ofTokens tokens = .ok parameters)
  (writes : (performing scenario path parameters).Writes between text records)

include settings removable given

theorem program_refused [Machine] {error : CommandLine.UsageError}
    (refused : Parameters.ofTokens tokens = .error (.usage error)) :
    ∃ after, scenario.run (program lookup grid tokens) = (.ok 1, after) ∧
      Fails scenario [] error.message 1 after := by
  obtain ⟨noted, writes, -⟩ := Scenario.writes_cleared scenario.configured path
  have following := writes.trans (.logged _ (CommandLine.Refusal.usage error).log)
  obtain ⟨after, ended, fails⟩ :=
    ended_error following (show (Fault.commandLine (.usage error)).isReported = true from rfl)
  refine ⟨after, ?_, fails⟩
  rw [Scenario.run_program_refused settings removable given refused]
  exact ended

include accepted writes

theorem program_fails [Machine] {fault : Fault}
    (performed : (performing scenario path parameters).run
      (perform { recordPath := path, gigahertz := rate } grid parameters) = (.error fault, between))
    (reported : fault.isReported = true) :
    ∃ after, scenario.run (program lookup grid tokens) = (.ok 1, after) ∧
      Fails scenario text fault.message 1 after := by
  obtain ⟨noted, first, -⟩ := writes_performing scenario path parameters
  obtain ⟨after, ended, fails⟩ := ended_error (first.trans writes) reported
  refine ⟨after, ?_, fails⟩
  rw [Scenario.run_program_accepted settings removable given accepted performed]
  exact ended

theorem program_succeeds [Machine]
    (performed : (performing scenario path parameters).run
      (perform { recordPath := path, gigahertz := rate } grid parameters) = (.ok (), between))
    (mild : ∀ record ∈ records, record.level < .warning) :
    ∃ after, scenario.run (program lookup grid tokens) = (.ok 0, after) ∧
      Succeeds scenario 0 after := by
  obtain ⟨noted, first, early⟩ := writes_performing scenario path parameters
  have all : ∀ record ∈ noted ++ records, record.level < .warning := by
    intro record member
    exact (List.mem_append.mp member).elim (early record) (mild record)
  obtain ⟨after, ended, succeeds⟩ := ended_ok (first.trans writes) all
  refine ⟨after, ?_, succeeds⟩
  rw [Scenario.run_program_accepted settings removable given accepted performed]
  exact ended

end

section

variable {lookup : String → Option Text} {path : Text} {tokens : List Token}
  {parameters : Parameters}

section

variable [Machine]

variable {rate : Binary64} {grid : Except Grid.Error Grid}
  (settings : Settings.ofEnvironment lookup = .ok { recordPath := path, gigahertz := rate })
  (holds : scenario.files.Holds path) (given : tokens ≠ [])
  (accepted : Parameters.ofTokens tokens = .ok parameters) (mode : parameters.mode = .run)

include settings holds given accepted mode

theorem program_exits_faulty {fault : Fault} {between : Scenario} {records : List Log.Record}
    (faulty : (Asked.ofTokens tokens).fault? = some fault)
    (ran : (performing scenario path parameters).run
      (run parameters { recordPath := path, gigahertz := rate }) = (.error fault, between))
    (writes : (performing scenario path parameters).Writes between [] records) :
    ∃ status after, scenario.run (program lookup grid tokens) = (.ok status, after) ∧
      Exits scenario (Asked.ofTokens tokens) status after .run := by
  have stuck : ¬ (Asked.ofTokens tokens).Runnable := by
    rw [← Asked.fault?_eq_none_iff, faulty]
    exact Option.some_ne_none fault
  obtain ⟨after, exited, fails⟩ := program_fails settings holds.removable given accepted writes
    (Scenario.run_perform_run mode ran) (Asked.isReported_of_fault? faulty)
  exact ⟨1, after, exited, .refused stuck faulty fails⟩

/-- At any frequency that the readings of the source can be multiplied by. -/
theorem program_exits_counted {counter : CycleCounter}
    (rated : CycleCounter.build rate = .ok counter) (ready : scenario.Counted counter)
    (short : (Asked.ofTokens tokens).password.length < twoTo 32) :
    ∃ status after, scenario.run (program lookup grid tokens) = (.ok status, after) ∧
      Exits scenario (Asked.ofTokens tokens) status after .run := by
  have performingReady : (performing scenario path parameters).Counted counter :=
    ⟨ready.clock, ready.first, ready.last⟩
  cases faulty : (Asked.ofTokens tokens).fault? with
  | some fault =>
      obtain ⟨between, records, ran, writes⟩ :=
        run_faulty path rated performingReady accepted short faulty
      exact program_exits_faulty settings holds given accepted mode faulty ran writes
  | none =>
      have runnable := Asked.fault?_eq_none_iff.mp faulty
      obtain ⟨variant, named⟩ := Option.ne_none_iff_exists'.mp runnable.1
      obtain ⟨between, seconds, mebicycles, records, ran, -, writes, informed⟩ :=
        run_answered path rated performingReady accepted short named faulty
      obtain ⟨after, exited, succeeds⟩ := program_succeeds settings holds.removable given accepted
        writes (Scenario.run_perform_run mode ran) (mild_of_informed informed)
      exact ⟨0, after, exited, .hashed runnable succeeds⟩

/-- A fault of the run that is not reported escapes from the session. -/
theorem program_escapes_run {fault : Fault} {between : Scenario}
    (ran : (performing scenario path parameters).run
      (run parameters { recordPath := path, gigahertz := rate }) = (.error fault, between))
    (unreported : fault.isReported = false) :
    scenario.run (program lookup grid tokens) = (.error fault, between) := by
  have ended : scenario.run (program lookup grid tokens) = between.ended (.error fault) :=
    Scenario.run_program_accepted settings holds.removable given accepted
      (Scenario.run_perform_run mode ran)
  rw [ended, Scenario.ended, if_neg (by simp [unreported])]

end

variable (settings : Settings.ofEnvironment lookup = .ok { recordPath := path })
  (holds : scenario.files.Holds path) (given : tokens ≠ [])
  (accepted : Parameters.ofTokens tokens = .ok parameters)

include settings holds given accepted

theorem program_exits_run [Machine] {grid : Except Grid.Error Grid} (mode : parameters.mode = .run)
    (ready : scenario.Timed) (short : (Asked.ofTokens tokens).password.length < twoTo 32) :
    ∃ status after, scenario.run (program lookup grid tokens) = (.ok status, after) ∧
      Exits scenario (Asked.ofTokens tokens) status after .run :=
  program_exits_counted settings holds given accepted mode CycleCounter.build_one
    (CycleCounter.counted_steady ready) short

theorem program_exits_generate [Machine] {grid : Except Grid.Error Grid}
    (mode : parameters.mode = .generate) :
    ∃ status after, scenario.run (program lookup grid tokens) = (.ok status, after) ∧
      Exits scenario (Asked.ofTokens tokens) status after .generate := by
  obtain ⟨tagEq, -⟩ := Parameters.eq_asked accepted
  have performingHolds : (performing scenario path parameters).files.Holds path :=
    Files.cleared_holds holds
  cases named : (Asked.ofTokens tokens).variant? with
  | none =>
      have generated : (performing scenario path parameters).run
          (generate parameters.tag path .neither) = (.error .unknownVariant, _) :=
        run_generate_unnamed (tagEq.trans named)
      obtain ⟨after, exited, fails⟩ := program_fails settings holds.removable given accepted
        (.refl _) (Scenario.run_perform_generate mode generated) rfl
      exact ⟨1, after, exited, .unnamed named fails⟩
  | some variant =>
      obtain ⟨between, records, generated, writes, informed⟩ :=
        run_generate (tagEq.trans named) performingHolds
      obtain ⟨after, exited, succeeds⟩ := program_succeeds settings holds.removable given accepted
        writes (Scenario.run_perform_generate mode generated) (mild_of_informed informed)
      exact ⟨0, after, exited, .recorded (by simp [named]) succeeds⟩

theorem program_exits_benchmark [Machine] (mode : parameters.mode = .benchmark)
    (ready : scenario.Timed)
    (words : ∀ call, WordType.signed.holds 32 (scenario.primitive.statusOf call) = true) :
    ∃ status after, scenario.run (program lookup (.ok .standard) tokens) = (.ok status, after) ∧
      Exits scenario (Asked.ofTokens tokens) status after .benchmark := by
  obtain ⟨between, calls, advanced, settles⟩ :=
    Measure.run_benchmark (performing scenario path parameters) (performing_timed ready) words
  obtain ⟨text, records, writes, mild⟩ := advanced.writes
  have primitive : (performing scenario path parameters).primitive = scenario.primitive := rfl
  have first : (performing scenario path parameters).calls = scenario.calls := rfl
  rw [primitive, first] at settles
  cases failed : Measure.firstFailure? scenario.primitive scenario.calls Grid.standard.size with
  | some failure =>
      rw [failed] at settles
      have measured : (performing scenario path parameters).run
          (Measure.benchmark (some .standard) CycleCounter.steady true) = (.error _, between) :=
        settles
      obtain ⟨after, exited, fails⟩ := program_fails settings holds.removable given accepted writes
        (Scenario.run_perform_benchmark mode measured) rfl
      exact ⟨1, after, exited, .stopped failed fails⟩
  | none =>
      rw [failed] at settles
      obtain ⟨samples, measured⟩ : ∃ samples, (performing scenario path parameters).run
          (Measure.benchmark (some .standard) CycleCounter.steady true) = (.ok samples, between) :=
        settles
      obtain ⟨after, exited, succeeds⟩ := program_succeeds settings holds.removable given accepted
        writes (Scenario.run_perform_benchmark mode measured) mild
      exact ⟨0, after, exited, .measured (Measure.firstFailure?_eq_none_iff.mp failed) succeeds⟩

end

section

variable {lookup : String → Option Text} {path : Text} {tokens : List Token}

/-- Half a surrogate pair in the password, which nobody can have received, is a fault that
escapes. -/
theorem program_escapes [Machine] {grid : Except Grid.Error Grid} {error : Text.Unencodable}
    (settings : Settings.ofEnvironment lookup = .ok { recordPath := path })
    (removable : scenario.files.Removable path) (undivided : Line.Undivided tokens)
    (orderly : (Line.ofTokens tokens).Orderly)
    (numbers : (Line.ofTokens tokens).firstMisread? = none)
    (halved : (Line.ofTokens tokens).password = .error error) :
    ∃ after, scenario.run (program lookup grid tokens) =
      (.error (.commandLine (.password error)), after) := by
  have given : tokens ≠ [] := by
    rintro rfl
    cases halved
  have refused := Parameters.ofTokens_orderly undivided orderly numbers
  rw [halved] at refused
  exact ⟨_, Scenario.run_program_refused settings removable given refused⟩

end

theorem stillScenario_holds : stillScenario.files.Holds "kat-argon2.log" :=
  ⟨by decide +kernel, [Text.ofString "kat-argon2.log"], .inl (by decide +kernel)⟩

attribute [local instance] Machine.workstation

def noLanesTokens : List Token :=
  ["g", "-l", "-16777215", "r"]

end Session

end Argon2Workbench
