import Argon2Workbench.Session.Run

namespace Argon2Workbench.Session

open Hash.Argon2 (Variant)
open Host (Program)

variable [Machine]

variable {m : Type → Type} [Monad m] [Host m]

def recordLogger : String := "argon2_harness.kat.generator"

def removalRecord (path : Text) : Log.Record :=
  { level := .info, logger := recordLogger
    message := Text.ofString "removed stale KAT file " ++ path }

def removeStale (path : Text) : Program m Bool := do
  let removed ← Host.orFault .files (← (Host.discard path : m _))
  if removed then Host.note [removalRecord path]
  return removed

def announcement (variant : Variant) (path : Text) : Text :=
  Text.ofString s!"Generating test vectors for Argon2{variant.letter} in file \"" ++ path ++
    Text.ofString "\".\n"

/-- Writes the record of a variant and returns the tag that is in it. -/
def generate (tag : Option Text) (path : Text) (callbacks : Callbacks) : Program m Bytes := do
  let variant ← variantOf tag
  let _ ← removeStale path
  (Host.print (announcement variant path) : m Unit)
  let context ← Host.orFault .context (Request.testVector callbacks).build
  let (finished, status) ← Host.settled (Host.invoke context variant true) path
  Host.orFault .status (status.check variant)
  return finished.output

end Argon2Workbench.Session
