import Argon2Workbench.Context.Preset
import Argon2Workbench.Host
import Argon2Workbench.PasswordBuffer
import Argon2Workbench.RunReport

namespace Argon2Workbench.Session

open CommandLine (Parameters)
open Hash.Argon2 (Variant)
open Host (Program)

variable [Machine]

variable {m : Type → Type} [Monad m] [Host m]

def variantOf (tag : Option Text) : Program m Variant :=
  match tag.bind fun tag => Variant.ofTag? tag.bytes with
  | some variant => pure variant
  | none => throw .unknownVariant

def request (parameters : Parameters) (password : Bytes) : Request :=
  .run parameters.passes parameters.memory parameters.lanes parameters.threads password

/-- Hashes between two readings of clock and counter. Nothing is printed until nothing
can fail any more. -/
def hash (parameters : Parameters) (settings : Settings) (variant : Variant)
    (counter : CycleCounter) (password : Bytes) : Program m Bytes := do
  let startTime ← Host.readClock
  let startCycles ← Host.readCycles counter
  let context ← Host.orFault .context (request parameters password).build
  let (finished, status) ← Host.settled (Host.invoke context variant false) []
  let stopCycles ← Host.readCycles counter
  let stopTime ← Host.readClock
  Host.orFault .status (status.check variant)
  let mebicycles ← Host.orFault .conversion
    (Binary64.quotient (stopCycles - startCycles) (twoTo 20))
  let report ← Host.orFault .encoding
    (finished.report variant password (stopTime.sub startTime) mebicycles settings.capacity)
  (Host.print report.text : m Unit)
  return finished.output

def run (parameters : Parameters) (settings : Settings) : Program m Bytes := do
  let variant ← variantOf parameters.tag
  let counter ← Host.orFault .frequency (CycleCounter.build settings.gigahertz)
  let password := PasswordBuffer.source parameters.password
  Host.lending password (hash parameters settings variant counter password)

end Argon2Workbench.Session
