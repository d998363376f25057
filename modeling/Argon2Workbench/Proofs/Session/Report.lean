import Argon2Workbench.Proofs.Session.Answer
import Argon2Workbench.Proofs.Session.Program

namespace Argon2Workbench

open CommandLine (Asked Parameters Token)
open Hash.Argon2 (Inputs Variant)

namespace Session

variable {scenario : Scenario} {lookup : String → Option Text} {grid : Except Grid.Error Grid}
  {path : Text} {tokens : List Token} {parameters : Parameters} {variant : Variant}

/-- Any command line that is accepted in run mode is answered by one report, if what it asks
for leaves passes, lanes and threads after wrapping and there is memory to work in. A
password has less than `2 ^ 32` bytes, as the algorithm asks. -/
theorem program_prints_report [Machine]
    (settings : Settings.ofEnvironment lookup = .ok { recordPath := path })
    (removable : scenario.files.Removable path) (ready : scenario.Timed) (given : tokens ≠ [])
    (accepted : Parameters.ofTokens tokens = .ok parameters) (mode : parameters.mode = .run)
    (named : (Asked.ofTokens tokens).variant? = some variant)
    (passes : (Asked.ofTokens tokens).wrappedPasses ≠ 0)
    (lanes : (Asked.ofTokens tokens).wrappedLanes ≠ 0)
    (threads : (Asked.ofTokens tokens).wrappedThreads ≠ 0)
    (short : (Asked.ofTokens tokens).password.length < twoTo 32)
    (found : (Asked.ofTokens tokens).inputs.workingBytes < Machine.memory) :
    let asked := Asked.ofTokens tokens
    ∃ after seconds mebicycles,
      scenario.run (program lookup grid tokens) = (.ok 0, after) ∧
      Figures CycleCounter.steady scenario seconds mebicycles ∧
      after.output = scenario.output ++ Text.ofString
        (runReport (asked.hash variant) asked.wrappedMemory asked.password seconds mebicycles) := by
  intro asked
  have faultless : (Asked.ofTokens tokens).fault? = none := by
    rw [Asked.fault?, named]
    dsimp only
    rw [if_neg lanes, if_neg threads, if_neg passes, if_pos found]
  have begunReady : ((scenario.begun path).logged [parameters.log]).Timed :=
    ⟨ready.clock, ready.ticks⟩
  obtain ⟨after, seconds, mebicycles, records, ran, measures, writes, -⟩ :=
    run_faultless path begunReady accepted short named faultless
  have ended : scenario.run (program lookup grid tokens) = _ :=
    Scenario.run_program_accepted settings removable given accepted
      (Scenario.run_perform_run mode ran)
  exact ⟨after, seconds, mebicycles, ended, ⟨measures.seconds, measures.mebicycles⟩, writes.output⟩

attribute [local instance] Machine.workstation

/-- All clocks stand still, and there are no files. -/
def stillScenario : Scenario :=
  { clock := fun _ => some .one, ticks := fun _ => some 0 }

theorem stillScenario_timed : stillScenario.Timed :=
  ⟨fun _ => ⟨_, rfl⟩, fun _ => ⟨0, rfl, by decide⟩⟩

/-- Passes, memory and lanes come out of wrapping as 3, 4096 and 4. -/
def wrappedTokens : List Token :=
  ["r", "-t", "16777219", "-m", "34", "-l", "-16777211", "-y", "d", "-i", "pw"]

theorem wrappedTokens_asked :
    Asked.ofTokens wrappedTokens =
      { tag := "d", passes := 16777219, memory := 34, lanes := -16777211, threads := 4
        password := [0x70, 0x77] } := by
  rfl

theorem discard_default : ({} : Files).discard "kat-argon2.log" = .ok ({}, false) := by
  decide +kernel

theorem wrappedTokens_report :
    let asked := Asked.ofTokens wrappedTokens
    asked.wrappedPasses = 3 ∧ asked.wrappedMemory = 4096 ∧ asked.wrappedLanes = 4 ∧
    ∃ after seconds mebicycles,
      stillScenario.run (program (fun _ => none) (.ok .standard) wrappedTokens) = (.ok 0, after) ∧
      Figures CycleCounter.steady stillScenario seconds mebicycles ∧
      after.output = stillScenario.output ++ Text.ofString
        (runReport (asked.hash .d) asked.wrappedMemory asked.password seconds mebicycles) := by
  have accepted : Parameters.ofTokens wrappedTokens =
      .ok { tag := some "d", memory := twoTo 12, password := some [0x70, 0x77] } := by
    rfl
  have figures : (Asked.ofTokens wrappedTokens).wrappedPasses = 3 ∧
      (Asked.ofTokens wrappedTokens).wrappedMemory = 4096 ∧
      (Asked.ofTokens wrappedTokens).wrappedLanes = 4 ∧
      (Asked.ofTokens wrappedTokens).wrappedThreads = 4 := by
    rw [wrappedTokens_asked]
    decide
  have short : (Asked.ofTokens wrappedTokens).password.length < twoTo 32 := by
    rw [wrappedTokens_asked]
    decide
  have found : (Asked.ofTokens wrappedTokens).inputs.workingBytes < Machine.memory := by
    rw [wrappedTokens_asked]
    decide
  refine ⟨figures.1, figures.2.1, figures.2.2.1, ?_⟩
  exact program_prints_report settings_default ⟨_, discard_default⟩ stillScenario_timed (by decide)
    accepted rfl (by rw [wrappedTokens_asked]; rfl) (by omega) (by omega) (by omega) short found

/-- A directory has the name of the record. -/
def blockedScenario : Scenario :=
  { stillScenario with files := { directories := [["kat-argon2.log"]] } }

theorem discard_blocked : blockedScenario.files.discard "kat-argon2.log" =
    .error (.refused .isDirectory "kat-argon2.log") := by
  decide +kernel

theorem empty_asked :
    Asked.ofTokens [] =
      { tag := "i", passes := 3, memory := 12, lanes := 4, threads := 4
        password := Text.utf8 "password" } := by
  rfl

/-- No report comes of a command line without tokens, although it would be read as a run
with all defaults, and none where a directory has the name of the record. -/
theorem program_without_report :
    (Parameters.ofTokens [] = .ok {} ∧ (Asked.ofTokens []).variant? = some .i ∧
      (Asked.ofTokens []).wrappedPasses = 3 ∧ (Asked.ofTokens []).wrappedLanes = 4 ∧
      (Asked.ofTokens []).wrappedThreads = 4 ∧
      ∃ after, stillScenario.run (program (fun _ => none) (.ok .standard) []) = (.ok 1, after)) ∧
    (Parameters.ofTokens ["r"] = .ok {} ∧
      ∃ after, blockedScenario.run (program (fun _ => none) (.ok .standard) ["r"]) =
        (.error (.files (.refused .isDirectory "kat-argon2.log")), after)) := by
  have named : (Asked.ofTokens []).variant? = some .i := by
    rw [empty_asked]
    rfl
  have figures : (Asked.ofTokens []).wrappedPasses = 3 ∧ (Asked.ofTokens []).wrappedLanes = 4 ∧
      (Asked.ofTokens []).wrappedThreads = 4 := by
    rw [empty_asked]
    decide
  refine ⟨⟨rfl, named, figures.1, figures.2.1, figures.2.2, ?_⟩, rfl, ?_⟩
  · exact ⟨_, Scenario.run_program_empty settings_default ⟨_, discard_default⟩⟩
  · exact ⟨_, Scenario.run_program_unprepared settings_default discard_blocked _⟩

end Session

end Argon2Workbench
