import Argon2Workbench.Measure.Benchmark

namespace Argon2Workbench.Survey

open CommandLine (Token)
open Host (Program)

variable [Machine]

variable {m : Type → Type} [Monad m] [Host m]

def helpLines : List String := [
  "usage: argon2_bench.py [-h] [--min-log-mcost MIN_LOG_MCOST]",
  "                       [--max-log-mcost MAX_LOG_MCOST]",
  "                       [--threads THREADS [THREADS ...]]",
  "",
  "options:",
  "  -h, --help            show this help message and exit",
  "  --min-log-mcost MIN_LOG_MCOST",
  "                        Smallest memory cost as base 2 log of KiB",
  "  --max-log-mcost MAX_LOG_MCOST",
  "                        Largest memory cost as base 2 log of KiB",
  "  --threads THREADS [THREADS ...]",
  "                        Thread counts to measure (lanes follow threads)"]

def help : String :=
  String.join (helpLines.map (· ++ "\n"))

def refusedStatus : Nat := 2

def grid (options : Options) : Program m Grid := do
  let (low, high) ← Host.orFault .bounds options.bounds
  Host.orFault .grid (Grid.build low high options.threads)

def survey (settings : Settings) (grid : Grid) : Program m Unit := do
  (Host.print s!"Argon2 benchmark: {grid.size} configurations\n" : m Unit)
  let counter ← Host.orFault .frequency (CycleCounter.build settings.gigahertz)
  let _ ← Measure.benchmark (some grid) counter true

/-- A status of the primitive that is not the one of success is reported. All other
faults end the program. -/
def reporting (program : Program m Unit) : Program m Nat :=
  tryCatch (do program; return 0) fun
    | .status (.failed failure) => do
        (Host.complain s!"error: {failure.message}\n" : m Unit)
        return 1
    | fault => throw fault

def program (lookup : String → Option Text) (tokens : List Token) : Program m Nat :=
  match Options.ofTokens tokens with
  | .error .help => do
      (Host.print help : m Unit)
      return 0
  | .error .refused => return refusedStatus
  | .ok options => do
      let settings ← Host.orFault .settings (Settings.ofEnvironment lookup)
      let grid ← grid options
      reporting (survey settings grid)

end Argon2Workbench.Survey
