import Argon2Workbench.Context.Preset
import Argon2Workbench.Host
import Argon2Workbench.Measure.Sample

namespace Argon2Workbench.Measure

open Host (Program)

variable [Machine]

variable {m : Type → Type} [Monad m] [Host m]

def logger : String := "argon2_harness.bench.harness"

def call (context : Context) (variant : Hash.Argon2.Variant) :
    Program m (Context × Hash.Argon2.Status) :=
  Host.settled (Host.measured context variant) ""

/-- One sample. Every reading is taken before a status is looked at. -/
def sample (memory threads : Int) (counter : CycleCounter) : Program m Sample := do
  let context ← Host.orFault .context (Request.measurement memory threads).build
  let startTime ← Host.readClock
  let startCycles ← Host.readCycles counter
  let (between, statusD) ← call context .d
  let middleCycles ← Host.readCycles counter
  let (_, statusI) ← call between .i
  let stopCycles ← Host.readCycles counter
  let stopTime ← Host.readClock
  Host.orFault .status (statusD.check .d)
  Host.orFault .status (statusI.check .i)
  return {
    memory, threads, passes := context.passes
    startCycles, middleCycles, stopCycles, startTime, stopTime, statusD, statusI }

def sizeRecord (grid : Grid) : Log.Record :=
  { level := .info, logger, message := s!"benchmarking {grid.size} configurations" }

def pointRecord (memory threads : Int) : Except Numeral.DigitsError Log.Record := do
  return {
    level := .debug, logger
    message := s!"measuring m_cost={← Numeral.written memory} threads={← Numeral.written threads}"
    fields := { memory := some (.integer memory), threads := some (.integer threads) } }

def point (counter : CycleCounter) (reporting : Bool) (memory threads : Int) :
    Program m Sample := do
  Host.noteWritten .debug (pointRecord memory threads)
  let sample ← sample memory threads counter
  if reporting then
    let report ← Host.orFault .sample sample.report
    (Host.print report : m Unit)
  return sample

/-- Measures a grid, or the standard one where it is missing or empty. -/
def benchmark (grid : Option Grid) (counter : CycleCounter) (reporting : Bool) :
    Program m (List Sample) := do
  let grid := Grid.chosen grid
  Host.note [sizeRecord grid]
  grid.points.mapM fun (memory, threads) => point counter reporting memory threads

end Argon2Workbench.Measure
