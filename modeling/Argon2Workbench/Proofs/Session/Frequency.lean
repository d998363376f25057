import Argon2Workbench.Proofs.Session.Exit

namespace Argon2Workbench

open CommandLine (Asked Parameters Token)

/-- Settings where a frequency is set, besides the path of the record. -/
theorem Settings.ofEnvironment_rated {lookup : String → Option Text} {text : Text} {rate : Binary64}
    (unset : ∀ name ∈ variableNames, name ≠ "ARGON2_KAT_FILENAME" → name ≠ "ARGON2_CPU_GHZ" →
      lookup name = none)
    (set : lookup "ARGON2_CPU_GHZ" = some text) (read : readGigahertz text = .ok rate) :
    ofEnvironment lookup =
      .ok { recordPath := (lookup "ARGON2_KAT_FILENAME").getD "kat-argon2.log"
            gigahertz := rate } := by
  have capacity : lookup "ARGON2_ENCODED_CAPACITY" = none :=
    unset _ (by decide) (by decide) (by decide)
  have level : lookup "ARGON2_LOG_LEVEL" = none := unset _ (by decide) (by decide) (by decide)
  have json : lookup "ARGON2_LOG_JSON" = none := unset _ (by decide) (by decide) (by decide)
  simp only [ofEnvironment, capacity, set, read, level, json, pure_bind, Option.map_none,
    Option.getD_none, Option.any_none]
  rfl

theorem Settings.readGigahertz_sized {text : Text} {rate : Binary64}
    (read : readGigahertz text = .ok rate) : rate.Sized := by
  rw [readGigahertz] at read
  cases number : Numeral.real (text.charactersOr foreign) with
  | none =>
      rw [number] at read
      contradiction
  | some value =>
      rw [number] at read
      cases read
      exact Numeral.real_sized number

namespace Session

/-- How a session in run mode ends, whatever the frequency is. -/
inductive Ends [Machine] (before : Scenario) (asked : Asked) (rate : Binary64) :
    Except Fault Nat → Scenario → Prop
  | exits {status : Nat} {after : Scenario}
      (applied : asked.variant? = none ∨ rate.notPositive = false)
      (exits : Exits before asked status after .run) : Ends before asked rate (.ok status) after
  | unrated {after : Scenario} (named : asked.variant? ≠ none) (low : rate.notPositive = true) :
      Ends before asked rate (.error (.frequency ⟨rate⟩)) after
  | uncounted {error : Binary64.ConversionError} {after : Scenario}
      (named : asked.variant? ≠ none) (positive : rate.notPositive = false)
      (unusable : ¬ rate.Usable) : Ends before asked rate (.error (.conversion error)) after

theorem Ends.exits_of_usable [Machine] {before after : Scenario} {asked : Asked} {rate : Binary64}
    {outcome : Except Fault Nat} (ends : Ends before asked rate outcome after)
    (usable : rate.Usable) :
    ∃ status, outcome = .ok status ∧ Exits before asked status after .run := by
  cases ends with
  | exits applied exits => exact ⟨_, rfl, exits⟩
  | unrated named low =>
      rw [usable.positive] at low
      contradiction
  | uncounted named positive unusable => exact absurd usable unusable

variable {scenario : Scenario} {lookup : String → Option Text} {grid : Except Grid.Error Grid}
  {path : Text} {rate : Binary64} {counter : CycleCounter} {tokens : List Token}
  {parameters : Parameters} {variant : Hash.Argon2.Variant}

theorem counted_of_usable (natural : scenario.Natural)
    (rated : CycleCounter.build rate = .ok counter) (sized : rate.Sized) (usable : rate.Usable) :
    scenario.Counted counter := by
  have same : counter.gigahertz = rate := CycleCounter.gigahertz_build rated
  have readings (index : Nat) : ∃ reading cycles, scenario.ticks index = some reading ∧
      counter.cycles reading = .ok cycles := by
    obtain ⟨reading, read, natural, small⟩ := natural.ticks index
    obtain ⟨cycles, counted⟩ :=
      CycleCounter.cycles_usable (same ▸ sized) (same ▸ usable) natural small
    exact ⟨reading, cycles, read, counted⟩
  exact ⟨natural.clock, readings _, readings _⟩

/-- A run with a reading that cannot be counted fails with that, unless there was no context
to hash before it. -/
theorem run_uncounted_or_unbuilt [Machine] (path : Text)
    (rated : CycleCounter.build rate = .ok counter)
    (accepted : Parameters.ofTokens tokens = .ok parameters)
    (named : (Asked.ofTokens tokens).variant? = some variant)
    (short : (Asked.ofTokens tokens).password.length < twoTo 32)
    (natural : scenario.Natural) (unready : ¬ scenario.Counted counter) :
    ∃ fault after, scenario.run (run parameters { recordPath := path, gigahertz := rate }) =
        (.error fault, after) ∧
      ((∃ error, fault = .conversion error) ∨
        (Asked.ofTokens tokens).fault? = some fault ∧ scenario.Writes after [] []) := by
  obtain ⟨tagEq, -⟩ := Parameters.eq_asked accepted
  have tag : named? parameters.tag = some variant := tagEq.trans named
  obtain ⟨start, started⟩ := natural.clock scenario.clockReads
  obtain ⟨firstTicks, firstRead, -⟩ := natural.ticks scenario.tickReads
  obtain ⟨lastTicks, lastRead, -⟩ := natural.ticks (scenario.tickReads + 1)
  cases firstCounted : counter.cycles firstTicks with
  | error error =>
      obtain ⟨after, ran⟩ := run_uncounted path rated tag started firstRead firstCounted
      exact ⟨_, after, ran, .inl ⟨error, rfl⟩⟩
  | ok first =>
      -- The context is built between the two readings, and may end the run before the last.
      rcases unbuilt_or_built accepted named with ⟨error, refused, faulty⟩ | ⟨-, -, built⟩
      · obtain ⟨after, ran, writes⟩ :=
          run_unbuilt path rated tag started firstRead firstCounted refused
        exact ⟨_, after, ran, .inr ⟨faulty, writes⟩⟩
      cases lastCounted : counter.cycles lastTicks with
      | error error =>
          obtain ⟨after, ran⟩ := run_uncounted_last path rated tag started firstRead firstCounted
            built (unmarshallable?_accepted accepted short) lastRead lastCounted
          exact ⟨_, after, ran, .inl ⟨error, rfl⟩⟩
      | ok last =>
          refine absurd ?_ unready
          exact ⟨natural.clock, ⟨_, _, firstRead, firstCounted⟩, ⟨_, _, lastRead, lastCounted⟩⟩

section

variable [Machine]

variable (settings : Settings.ofEnvironment lookup = .ok { recordPath := path, gigahertz := rate })
  (holds : scenario.files.Holds path) (given : tokens ≠ [])
  (accepted : Parameters.ofTokens tokens = .ok parameters) (mode : parameters.mode = .run)

include settings holds given accepted mode

theorem program_exits_unnamed (unnamed : (Asked.ofTokens tokens).variant? = none) :
    ∃ status after, scenario.run (program lookup grid tokens) = (.ok status, after) ∧
      Exits scenario (Asked.ofTokens tokens) status after .run := by
  obtain ⟨tagEq, -⟩ := Parameters.eq_asked accepted
  have faulty : (Asked.ofTokens tokens).fault? = some .unknownVariant := by
    rw [Asked.fault?, unnamed]
  exact program_exits_faulty settings holds given accepted mode faulty
    (run_unnamed (tagEq.trans unnamed)) (.refl _)

section

variable (named : (Asked.ofTokens tokens).variant? = some variant)

include named

theorem program_unrated (low : rate.notPositive = true) :
    ∃ after, scenario.run (program lookup grid tokens) = (.error (.frequency ⟨rate⟩), after) := by
  obtain ⟨tagEq, -⟩ := Parameters.eq_asked accepted
  have refused : CycleCounter.build rate = .error ⟨rate⟩ := by
    rw [CycleCounter.build, dif_pos low]
  exact ⟨_, program_escapes_run settings holds given accepted mode
    (run_unrated (tagEq.trans named) refused) rfl⟩

variable (rated : CycleCounter.build rate = .ok counter)

include rated

theorem program_uncounted {start : Binary64} {ticks : Int} {error : Binary64.ConversionError}
    (started : scenario.clock scenario.clockReads = some start)
    (read : scenario.ticks scenario.tickReads = some ticks)
    (failed : counter.cycles ticks = .error error) :
    ∃ after, scenario.run (program lookup grid tokens) = (.error (.conversion error), after) := by
  obtain ⟨tagEq, -⟩ := Parameters.eq_asked accepted
  let begun := performing scenario path parameters
  have begunStart : begun.clock begun.clockReads = some start := started
  have begunTicks : begun.ticks begun.tickReads = some ticks := read
  obtain ⟨after, ran⟩ := run_uncounted path rated (tagEq.trans named) begunStart begunTicks failed
  exact ⟨after, program_escapes_run settings holds given accepted mode ran rfl⟩

theorem program_ends_counter (sized : rate.Sized) (natural : scenario.Natural)
    (short : (Asked.ofTokens tokens).password.length < twoTo 32) :
    ∃ outcome after, scenario.run (program lookup grid tokens) = (outcome, after) ∧
      Ends scenario (Asked.ofTokens tokens) rate outcome after := by
  have positive : rate.notPositive = false := by
    rw [← CycleCounter.gigahertz_build rated]
    exact counter.positive
  by_cases ready : scenario.Counted counter
  · obtain ⟨status, after, exited, exits⟩ :=
      program_exits_counted settings holds given accepted mode rated ready short
    exact ⟨.ok status, after, exited, .exits (.inr positive) exits⟩
  have unusable : ¬ rate.Usable :=
    fun usable => ready (counted_of_usable natural rated sized usable)
  have begunNatural : (performing scenario path parameters).Natural :=
    ⟨natural.clock, natural.ticks⟩
  have begunUnready : ¬ (performing scenario path parameters).Counted counter :=
    fun begun => ready ⟨begun.clock, begun.first, begun.last⟩
  obtain ⟨fault, between, ran, ⟨error, rfl⟩ | ⟨faulty, writes⟩⟩ :=
    run_uncounted_or_unbuilt path rated accepted named short begunNatural begunUnready
  · refine ⟨.error (.conversion error), between, ?_, .uncounted (by simp [named]) positive unusable⟩
    exact program_escapes_run settings holds given accepted mode ran rfl
  · obtain ⟨status, after, exited, exits⟩ :=
      program_exits_faulty settings holds given accepted mode faulty ran writes
    exact ⟨.ok status, after, exited, .exits (.inr positive) exits⟩

end

theorem program_ends (sized : rate.Sized) (natural : scenario.Natural)
    (short : (Asked.ofTokens tokens).password.length < twoTo 32) :
    ∃ outcome after, scenario.run (program lookup grid tokens) = (outcome, after) ∧
      Ends scenario (Asked.ofTokens tokens) rate outcome after := by
  cases named : (Asked.ofTokens tokens).variant? with
  | none =>
      obtain ⟨status, after, exited, exits⟩ :=
        program_exits_unnamed settings holds given accepted mode named
      exact ⟨.ok status, after, exited, .exits (.inl named) exits⟩
  | some variant =>
      cases low : rate.notPositive with
      | true =>
          obtain ⟨after, escaped⟩ := program_unrated settings holds given accepted mode named low
          exact ⟨_, after, escaped, .unrated (by simp [named]) low⟩
      | false =>
          exact program_ends_counter settings holds given accepted mode named
            (CycleCounter.build_positive low) sized natural short

theorem program_uncounted_greatest (named : (Asked.ofTokens tokens).variant? ≠ none)
    (positive : rate.notPositive = false) (unusable : ¬ rate.Usable) (natural : scenario.Natural)
    (greatest : scenario.ticks scenario.tickReads = some (twoTo 63 - 1 : Nat)) :
    ∃ error after,
      scenario.run (program lookup grid tokens) = (.error (.conversion error), after) := by
  obtain ⟨variant, named⟩ := Option.ne_none_iff_exists'.mp named
  obtain ⟨start, started⟩ := natural.clock scenario.clockReads
  have unusable : ¬ (CycleCounter.mk rate positive).gigahertz.Usable := unusable
  obtain ⟨error, failed⟩ := CycleCounter.cycles_unusable unusable
  obtain ⟨after, escaped⟩ := program_uncounted settings holds given accepted mode named
    (CycleCounter.build_positive positive) started greatest failed
  exact ⟨error, after, escaped⟩

end

/-- For every text that a number can be read from, and for every source of counts with 63 bits:
a session in run mode exits, or it ends with one of two faults that escape. The frequencies
that no fault escapes with, whatever the counts are, are those above zero and below `2 ^ 961`. -/
theorem program_ends_by_frequency [Machine] {text : Text}
    (unset : ∀ name ∈ Settings.variableNames, name ≠ "ARGON2_KAT_FILENAME" →
      name ≠ "ARGON2_CPU_GHZ" → lookup name = none)
    (set : lookup "ARGON2_CPU_GHZ" = some text) (read : Settings.readGigahertz text = .ok rate)
    (holds : scenario.files.Holds ((lookup "ARGON2_KAT_FILENAME").getD "kat-argon2.log"))
    (natural : scenario.Natural) (given : tokens ≠ [])
    (accepted : Parameters.ofTokens tokens = .ok parameters) (mode : parameters.mode = .run)
    (short : (Asked.ofTokens tokens).password.length < twoTo 32) :
    ∃ outcome after, scenario.run (program lookup grid tokens) = (outcome, after) ∧
      Ends scenario (Asked.ofTokens tokens) rate outcome after ∧
      (rate.Usable → ∃ status, outcome = .ok status) ∧
      ((Asked.ofTokens tokens).variant? ≠ none → rate.notPositive = false → ¬ rate.Usable →
        scenario.ticks scenario.tickReads = some (twoTo 63 - 1 : Nat) →
        ∃ error, outcome = .error (.conversion error)) ∧
      (rate.Usable ↔ ∃ counter, CycleCounter.build rate = .ok counter ∧
        ∀ ticks : Int, 0 ≤ ticks → ticks < twoTo 63 →
          ∃ cycles, counter.cycles ticks = .ok cycles) := by
  have settings := Settings.ofEnvironment_rated unset set read
  have sized := Settings.readGigahertz_sized read
  obtain ⟨outcome, after, ended, ends⟩ :=
    program_ends settings holds given accepted mode sized natural short
  refine ⟨outcome, after, ended, ends, ?_, ?_, CycleCounter.usable_iff sized⟩
  · intro usable
    obtain ⟨status, exited, -⟩ := ends.exits_of_usable usable
    exact ⟨status, exited⟩
  · intro named positive unusable greatest
    obtain ⟨error, other, escaped⟩ := program_uncounted_greatest settings holds given accepted mode
      named positive unusable natural greatest
    cases ended.symm.trans escaped
    exact ⟨error, rfl⟩

attribute [local instance] Machine.workstation

def rated (text : Text) : String → Option Text :=
  fun name => if name = "ARGON2_CPU_GHZ" then some text else none

theorem rated_unset (text : Text) : ∀ name ∈ Settings.variableNames,
    name ≠ "ARGON2_KAT_FILENAME" → name ≠ "ARGON2_CPU_GHZ" → rated text name = none := by
  intro name _ _ other
  exact if_neg other

theorem stillScenario_natural : stillScenario.Natural :=
  ⟨fun _ => ⟨_, rfl⟩, fun _ => ⟨0, rfl, by decide, by decide⟩⟩

theorem plainRun_accepted : Parameters.ofTokens ["r"] = .ok {} :=
  rfl

theorem plainRun_succeeds :
    ∃ after, stillScenario.run (program (rated "3.5") (.ok .standard) ["r"]) = (.ok 0, after) ∧
      Succeeds stillScenario 0 after := by
  let rate : Binary64 := .finite false ⟨7 * twoTo 50, 1023⟩
  have read : Settings.readGigahertz "3.5" = .ok rate := by
    decide +kernel
  have usable : rate.Usable :=
    ⟨_, rfl, by decide +kernel, by decide +kernel⟩
  have runnable : (Asked.ofTokens ["r"]).Runnable := by
    rw [← Asked.fault?_eq_none_iff]
    rfl
  obtain ⟨outcome, after, ended, ends, -⟩ :=
    program_ends_by_frequency (rated_unset "3.5") rfl read stillScenario_holds
      stillScenario_natural (by decide) plainRun_accepted rfl (by decide)
  obtain ⟨status, rfl, exits⟩ := ends.exits_of_usable usable
  cases exits with
  | hashed runnable succeeds =>
      cases succeeds.status
      exact ⟨after, ended, succeeds⟩
  | refused stuck => exact absurd runnable stuck

/-- Zero is refused by a fault that nobody reports. What is no number is accepted, although
nothing can be counted with it. -/
theorem plainRun_escapes :
    (Settings.readGigahertz "0" = .ok .zero ∧
      ∃ after, stillScenario.run (program (rated "0") (.ok .standard) ["r"]) =
        (.error (.frequency ⟨.zero⟩), after)) ∧
    (Settings.readGigahertz "nan" = .ok .nan ∧
      (∃ counter, CycleCounter.build .nan = .ok counter ∧
        counter.cycles 0 = .error .nanToInteger) ∧
      ∃ after, stillScenario.run (program (rated "nan") (.ok .standard) ["r"]) =
        (.error (.conversion .nanToInteger), after)) := by
  have zero : Settings.readGigahertz "0" = .ok .zero := by
    decide +kernel
  have nan : Settings.readGigahertz "nan" = .ok .nan := by
    decide +kernel
  have built : CycleCounter.build .nan = .ok ⟨.nan, rfl⟩ := rfl
  have failed : (CycleCounter.mk .nan rfl).cycles 0 = .error .nanToInteger := by
    decide +kernel
  refine ⟨⟨zero, ?_⟩, nan, ⟨_, built, failed⟩, ?_⟩
  · exact program_unrated (Settings.ofEnvironment_rated (rated_unset "0") rfl zero)
      stillScenario_holds (by decide) plainRun_accepted rfl rfl (by decide +kernel)
  · exact program_uncounted (Settings.ofEnvironment_rated (rated_unset "nan") rfl nan)
      stillScenario_holds (by decide) plainRun_accepted rfl rfl built rfl rfl failed

end Session

end Argon2Workbench
