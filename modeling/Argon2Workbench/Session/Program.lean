import Argon2Workbench.CommandLine.Help
import Argon2Workbench.Measure.Benchmark
import Argon2Workbench.Session.Vectors

namespace Argon2Workbench.Session

open CommandLine (Token Parameters)
open Host (Program)

variable [Machine]

variable {m : Type → Type} [Monad m] [Host m]

def logger : String := "argon2_harness.cli"

def parameters (tokens : List Token) : Program m Parameters :=
  match Parameters.ofTokens tokens with
  | .error refusal => do
      Host.note refusal.log
      throw (.commandLine refusal)
  | .ok parameters => do
      Host.note [parameters.log]
      return parameters

def perform (settings : Settings) (grid : Except Grid.Error Grid) (parameters : Parameters) :
    Program m Unit :=
  match parameters.mode with
  | .benchmark => do
      let counter ← Host.orFault .frequency (CycleCounter.build settings.gigahertz)
      let grid ← Host.orFault .grid grid
      let _ ← Measure.benchmark (some grid) counter true
  | .generate => do
      let _ ← generate parameters.tag settings.recordPath .neither
  | .run => do
      let _ ← run parameters settings

def report (fault : Fault) : Program m Nat :=
  if fault.isReported then do
    Host.note [{ level := .debug, logger
                 message := Text.ofString "fatal: " ++ fault.message }]
    (Host.complain (Text.ofString "error: " ++ fault.message ++ Text.ofString "\n") : m Unit)
    return 1
  else throw fault

def prepare (lookup : String → Option Text) : Program m Settings := do
  let settings ← Host.orFault .settings (Settings.ofEnvironment lookup)
  Host.orFault .level (← (Host.configureLog settings.logLevel settings.jsonLog : m _))
  let _ ← removeStale settings.recordPath
  return settings

/-- The session, up to its exit status. A command line without tokens asks for help, and
only a benchmark looks at the grid. -/
def program (lookup : String → Option Text) (grid : Except Grid.Error Grid)
    (tokens : List Token) : Program m Nat := do
  let settings ← prepare lookup
  if tokens.isEmpty then
    (Host.print CommandLine.ownHelp : m Unit)
    return 1
  else
    tryCatch (do perform settings grid (← parameters tokens); return 0) report

end Argon2Workbench.Session
