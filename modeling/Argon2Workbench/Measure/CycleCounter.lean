import Argon2Workbench.Number.Decimal

namespace Argon2Workbench

/-- One tick is a nanosecond, so a frequency in gigahertz turns ticks into cycles. -/
structure CycleCounter where
  gigahertz : Binary64
  positive : gigahertz.notPositive = false

structure FrequencyError where
  gigahertz : Binary64
deriving DecidableEq, Repr

def FrequencyError.message (error : FrequencyError) : String :=
  s!"cpu_ghz must be positive, got {Decimal.shortText error.gigahertz}"

namespace CycleCounter

def build (gigahertz : Binary64) : Except FrequencyError CycleCounter :=
  if refused : gigahertz.notPositive = true then .error ⟨gigahertz⟩
  else .ok ⟨gigahertz, by simpa using refused⟩

def cycles (counter : CycleCounter) (ticks : Int) : Except Binary64.ConversionError Int := do
  ((← Binary64.ofInt ticks).mul counter.gigahertz).truncate

end CycleCounter

end Argon2Workbench
