import Argon2Workbench.CommandLine.Parameters
import Argon2Workbench.Context.Invocation
import Argon2Workbench.Files
import Argon2Workbench.Log.Stream
import Argon2Workbench.Measure.CycleCounter
import Argon2Workbench.Measure.Grid
import Argon2Workbench.Measure.Sample
import Argon2Workbench.Phc
import Argon2Workbench.Settings
import Argon2Workbench.Survey.Options

namespace Argon2Workbench

open Hash.Argon2 (StatusError)

inductive Fault where
  | settings (error : Settings.Error)
  | level (error : Log.LevelError)
  | commandLine (error : CommandLine.Refusal)
  | unknownVariant
  | context (error : BuildError)
  | status (error : StatusError)
  | invocation (error : InvocationError)
  | encoding (error : EncodingError)
  | conversion (error : Binary64.ConversionError)
  | digits (error : Numeral.DigitsError)
  | sample (error : Sample.Error)
  | frequency (error : FrequencyError)
  | grid (error : Grid.Error)
  | files (error : Files.Error)
  | bounds (error : Survey.BoundError)
  | seriesEnded

namespace Fault

/-- The text of what is raised: the message, or the error of writing a number in it. -/
def orDigits : Except Numeral.DigitsError Text → Text
  | .ok message => message
  | .error error => error.message

def message : Fault → Text
  | settings error => error.message
  | level error => error.message
  | commandLine error => error.message
  | unknownVariant => "wrong Argon2 type"
  | context error => orDigits error.message
  | status error => error.message
  | invocation error => error.message
  | encoding error => orDigits error.message
  | conversion error => error.message
  | digits error => error.message
  | sample error => error.message
  | frequency error => error.message
  | grid error => orDigits error.message
  | files error => error.message
  | bounds error => error.message
  | seriesEnded => []

/-- Whether the workbench reports the fault itself, rather than fail with it. -/
def isReported : Fault → Bool
  | commandLine (.usage _) => true
  | unknownVariant => true
  | context (.violation error) => error.message.isOk
  | status (.failed _) => true
  | encoding error => error.message.isOk
  | _ => false

end Fault

end Argon2Workbench
