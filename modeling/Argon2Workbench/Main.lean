import Argon2Workbench.Live
import Argon2Workbench.Session.Program
import Argon2Workbench.Survey.Program

namespace Argon2Workbench

attribute [local instance] Machine.workstation

/-- The program that makes surveys, for an executable of its own. -/
def surveyMain (arguments : List String) : IO UInt32 := do
  Station.execute (Survey.program (← Station.environment) (arguments.map Text.ofString))

end Argon2Workbench

attribute [local instance] Argon2Workbench.Machine.workstation

def main (arguments : List String) : IO UInt32 := do
  Argon2Workbench.Station.execute <| Argon2Workbench.Session.program
    (← Argon2Workbench.Station.environment) (.ok .standard)
    (arguments.map Argon2Workbench.Text.ofString)
