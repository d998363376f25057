import Argon2Workbench.Proofs.Files
import Argon2Workbench.Proofs.Scenario.Steps
import Argon2Workbench.Proofs.Scenario.Timing
import Argon2Workbench.Session.Program

namespace Argon2Workbench

/-- Settings without any variable, but for the path of the record. -/
theorem Settings.ofEnvironment_path {lookup : String → Option Text}
    (unset : ∀ name ∈ variableNames, name ≠ "ARGON2_KAT_FILENAME" → lookup name = none) :
    ofEnvironment lookup =
      .ok { recordPath := (lookup "ARGON2_KAT_FILENAME").getD "kat-argon2.log" } := by
  have capacity : lookup "ARGON2_ENCODED_CAPACITY" = none := unset _ (by decide) (by decide)
  have gigahertz : lookup "ARGON2_CPU_GHZ" = none := unset _ (by decide) (by decide)
  have level : lookup "ARGON2_LOG_LEVEL" = none := unset _ (by decide) (by decide)
  have json : lookup "ARGON2_LOG_JSON" = none := unset _ (by decide) (by decide)
  simp only [ofEnvironment, capacity, gigahertz, level, json, pure_bind, Option.map_none,
    Option.getD_none, Option.any_none]
  rfl

theorem Session.settings_default :
    Settings.ofEnvironment (fun _ => none) = .ok { recordPath := "kat-argon2.log" } :=
  Settings.ofEnvironment_path fun _ _ _ => rfl

def Log.Stream.opened (stream : Log.Stream) : Log.Stream :=
  if stream.handlers.isEmpty then { level := .warning, handlers := [.plain] } else stream

theorem Log.Stream.configure_opened (stream : Log.Stream) :
    stream.configure "WARNING" false = (stream.opened, .ok ()) := by
  have setting : namedSetting (Text.ofString "WARNING") = .number .warning := by decide
  change stream.configurePlain (namedSetting (Text.ofString "WARNING")) = _
  rw [setting, configurePlain, opened]
  split <;> rfl

namespace Scenario

variable {path : Text} {rate : Binary64} {scenario after : Scenario}

def cleared (scenario : Scenario) (path : Text) : Scenario :=
  (scenario.refiled (scenario.files.cleared path)).logged
    (if scenario.files.occupied path then [Session.removalRecord path] else [])

def configured (scenario : Scenario) : Scenario :=
  { scenario with stream := scenario.stream.opened }

def begun (scenario : Scenario) (path : Text) : Scenario :=
  scenario.configured.cleared path

def reported (scenario : Scenario) (fault : Fault) : Scenario :=
  (scenario.logged [{ level := .debug, logger := Session.logger
                      message := Text.ofString "fatal: " ++ fault.message }]).complained
    (Text.ofString "error: " ++ fault.message ++ Text.ofString "\n")

theorem run_removeStale [Machine] (removable : scenario.files.Removable path) :
    scenario.run (Session.removeStale path) =
      (.ok (scenario.files.occupied path), scenario.cleared path) := by
  have discarded := run_discard (Files.discard_of_removable removable)
  rw [Session.removeStale, run_bind_ok _ discarded, run_bind_ok _ (run_orFault_ok _ _ _), cleared]
  cases scenario.files.occupied path with
  | false => rw [if_neg (by decide), if_neg (by decide), logged_nil]; rfl
  | true =>
      rw [if_pos rfl, if_pos rfl, run_bind_ok _ (run_note _ _)]
      rfl

theorem run_configureLog [Machine] (scenario : Scenario) :
    scenario.run (liftM (Host.configureLog "WARNING" false : Run (Except Log.LevelError Unit))) =
      (.ok (.ok ()), scenario.configured) := by
  rw [run_lift]
  change (Except.ok (configureLog "WARNING" false scenario).1,
    (configureLog "WARNING" false scenario).2) = _
  rw [configureLog, Log.Stream.configure_opened]
  rfl

theorem run_prepare [Machine] {lookup : String → Option Text}
    (settings : Settings.ofEnvironment lookup = .ok { recordPath := path, gigahertz := rate })
    (removable : scenario.files.Removable path) :
    scenario.run (Session.prepare lookup) =
      (.ok { recordPath := path, gigahertz := rate }, scenario.begun path) := by
  rw [Session.prepare, settings, run_bind_ok _ (run_orFault_ok _ _ _),
    run_bind_ok _ (run_configureLog scenario), run_bind_ok _ (run_orFault_ok _ _ _)]
  have same : scenario.configured.files.Removable path := removable
  exact run_bind_ok _ (run_removeStale same)

theorem run_removeStale_error [Machine] {error : Files.Error}
    (refused : scenario.files.discard path = .error error) :
    scenario.run (Session.removeStale path) = (.error (.files error), scenario) := by
  have discarded : scenario.run
      (liftM (Host.discard path : Run (Except Files.Error Bool)) : Host.Program Run _) =
        (.ok (.error error), scenario) := by
    rw [run_lift]
    change (Except.ok (discard path scenario).1, (discard path scenario).2) = _
    simp only [discard, refused]
  rw [Session.removeStale, run_bind_ok _ discarded,
    run_bind_error _ (run_orFault_error _ _ _)]

/-- Nothing happens in a session that cannot remove the file of an earlier one. -/
theorem run_program_unprepared [Machine] {lookup : String → Option Text}
    {grid : Except Grid.Error Grid}
    {error : Files.Error} (settings : Settings.ofEnvironment lookup = .ok { recordPath := path })
    (refused : scenario.files.discard path = .error error) (tokens : List CommandLine.Token) :
    scenario.run (Session.program lookup grid tokens) =
      (.error (.files error), scenario.configured) := by
  have stuck : scenario.configured.run (Session.removeStale path) =
      (.error (.files error), scenario.configured) :=
    run_removeStale_error refused
  have prepared : scenario.run (Session.prepare lookup) =
      (.error (.files error), scenario.configured) := by
    rw [Session.prepare, settings, run_bind_ok _ (run_orFault_ok _ _ _),
      run_bind_ok _ (run_configureLog scenario), run_bind_ok _ (run_orFault_ok _ _ _)]
    exact run_bind_error _ stuck
  rw [Session.program, run_bind_error _ prepared]

/-- A command line without tokens is answered by the help text. -/
theorem run_program_empty [Machine] {lookup : String → Option Text} {grid : Except Grid.Error Grid}
    (settings : Settings.ofEnvironment lookup = .ok { recordPath := path })
    (removable : scenario.files.Removable path) :
    scenario.run (Session.program lookup grid []) =
      (.ok 1, (scenario.begun path).printed CommandLine.ownHelp) := by
  rw [Session.program, run_bind_ok _ (run_prepare settings removable),
    if_pos List.isEmpty_nil, run_bind_ok _ (run_print _ _)]
  rfl

theorem run_report [Machine] (fault : Fault) :
    scenario.run (Session.report fault) =
      if fault.isReported then (.ok 1, scenario.reported fault) else (.error fault, scenario) := by
  rw [Session.report]
  split
  · rw [run_bind_ok _ (run_note _ _), run_bind_ok _ (run_complain _ _)]
    rfl
  · rfl

/-- How a session ends: a fault that is reported makes its status one, any other escapes. -/
def ended (after : Scenario) : Except Fault Unit → Except Fault Nat × Scenario
  | .ok () => (.ok 0, after)
  | .error fault =>
      if fault.isReported then (.ok 1, after.reported fault) else (.error fault, after)

section

variable [Machine]

variable {lookup : String → Option Text} {grid : Except Grid.Error Grid}
  {tokens : List CommandLine.Token} {parameters : CommandLine.Parameters}

theorem run_program {settings : Settings} {begun : Scenario}
    (given : tokens ≠ []) (prepared : scenario.run (Session.prepare lookup) = (.ok settings, begun))
    {outcome : Except Fault Unit}
    (performed : begun.run (Session.parameters tokens >>= Session.perform settings grid) =
      (outcome, after)) :
    scenario.run (Session.program lookup grid tokens) = after.ended outcome := by
  have some : ¬ tokens.isEmpty = true := by simpa using given
  rw [Session.program, run_bind_ok _ prepared, if_neg some, run_tryCatch]
  rcases read : begun.run (Session.parameters tokens) with ⟨_ | parameters, middle⟩
  · rw [run_bind_error _ read] at performed ⊢
    cases performed
    exact run_report _
  · rw [run_bind_ok _ read] at performed ⊢
    cases outcome with
    | error fault =>
        rw [run_bind_error _ performed]
        exact run_report _
    | ok =>
        rw [run_bind_ok _ performed]
        rfl

theorem run_parameters_accepted (accepted : CommandLine.Parameters.ofTokens tokens = .ok parameters) :
    scenario.run (Session.parameters tokens) = (.ok parameters, scenario.logged [parameters.log]) := by
  rw [Session.parameters, accepted]
  dsimp only
  rw [run_bind_ok _ (run_note _ _)]
  rfl

theorem run_parameters_refused {refusal : CommandLine.Refusal}
    (refused : CommandLine.Parameters.ofTokens tokens = .error refusal) :
    scenario.run (Session.parameters tokens) =
      (.error (.commandLine refusal), scenario.logged refusal.log) := by
  rw [Session.parameters, refused]
  dsimp only
  rw [run_bind_ok _ (run_note _ _)]
  rfl

theorem run_perform_run {settings : Settings} {outcome : Except Fault Bytes}
    (mode : parameters.mode = .run)
    (ran : scenario.run (Session.run parameters settings) = (outcome, after)) :
    scenario.run (Session.perform settings grid parameters) =
      (outcome.map fun _ => (), after) := by
  simp only [Session.perform, mode]
  cases outcome with
  | error fault => exact run_bind_error _ ran
  | ok tag => exact run_bind_ok _ ran

theorem run_perform_generate {outcome : Except Fault Bytes} (mode : parameters.mode = .generate)
    (generated : scenario.run (Session.generate parameters.tag path .neither) =
      (outcome, after)) :
    scenario.run (Session.perform { recordPath := path, gigahertz := rate } grid parameters) =
      (outcome.map fun _ => (), after) := by
  simp only [Session.perform, mode]
  cases outcome with
  | error fault => exact run_bind_error _ generated
  | ok tag => exact run_bind_ok _ generated

theorem run_perform_benchmark {chosen : Grid} {outcome : Except Fault (List Sample)}
    (mode : parameters.mode = .benchmark)
    (measured : scenario.run (Measure.benchmark (some chosen) CycleCounter.steady true) =
      (outcome, after)) :
    scenario.run (Session.perform { recordPath := path } (.ok chosen) parameters) =
      (outcome.map fun _ => (), after) := by
  simp only [Session.perform, mode]
  rw [CycleCounter.build_steady path, run_bind_ok _ (run_orFault_ok _ _ _),
    run_bind_ok _ (run_orFault_ok _ _ _)]
  cases outcome with
  | error fault => exact run_bind_error _ measured
  | ok samples => exact run_bind_ok _ measured

variable (settings : Settings.ofEnvironment lookup = .ok { recordPath := path, gigahertz := rate })
  (removable : scenario.files.Removable path) (given : tokens ≠ [])

include settings removable given

theorem run_program_refused {refusal : CommandLine.Refusal}
    (refused : CommandLine.Parameters.ofTokens tokens = .error refusal) :
    scenario.run (Session.program lookup grid tokens) =
      ((scenario.begun path).logged refusal.log).ended (.error (.commandLine refusal)) :=
  run_program given (run_prepare settings removable)
    (run_bind_error _ (run_parameters_refused refused))

theorem run_program_accepted {outcome : Except Fault Unit}
    (accepted : CommandLine.Parameters.ofTokens tokens = .ok parameters)
    (performed : ((scenario.begun path).logged [parameters.log]).run
      (Session.perform { recordPath := path, gigahertz := rate } grid parameters) =
        (outcome, after)) :
    scenario.run (Session.program lookup grid tokens) = after.ended outcome :=
  run_program given (run_prepare settings removable)
    ((run_bind_ok _ (run_parameters_accepted accepted)).trans performed)

end

theorem writes_cleared (scenario : Scenario) (path : Text) :
    ∃ records, scenario.Writes (scenario.cleared path) [] records ∧
      ∀ record ∈ records, record.level = .info := by
  refine ⟨_, (Writes.refiled scenario _).trans (.logged _ _), ?_⟩
  simp only [List.nil_append]
  split <;> simp [Session.removalRecord]

end Scenario

end Argon2Workbench
