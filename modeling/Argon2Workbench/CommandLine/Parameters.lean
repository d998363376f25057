import Argon2Workbench.CommandLine.Number
import Argon2Workbench.CommandLine.Reading
import Argon2Workbench.Text.Encodable

namespace Argon2Workbench.CommandLine

inductive Mode where
  | run
  | generate
  | benchmark
deriving DecidableEq, Repr

namespace Mode

def letter : Mode → String
  | run => "r"
  | generate => "g"
  | benchmark => "b"

def name : Mode → String
  | run => "RUN"
  | generate => "GENERATE"
  | benchmark => "BENCHMARK"

def ofToken? (token : Token) : Option Mode :=
  [run, generate, benchmark].find? fun mode => token = mode.letter

/-- Benchmarking wins wherever it stands; of the others the last does. -/
def select (modes : List Mode) : Mode :=
  if modes.contains benchmark then benchmark else modes.getLast?.getD run

end Mode

structure Parameters where
  /-- None where a value was given and taken away again. -/
  tag : Option Text := some "i"
  passes : Nat := 3
  memory : Nat := twoTo 12
  lanes : Nat := 4
  threads : Nat := 4
  password : Option Bytes := none
  mode : Mode := .run
deriving DecidableEq, Repr

inductive Refusal where
  | usage (error : UsageError)
  | passwordMissing
  | password (error : Text.Unencodable)
deriving DecidableEq, Repr

def Refusal.message : Refusal → Text
  | usage error => error.message
  | passwordMissing => "expected str, bytes or os.PathLike object, not list"
  | password error => error.message

def Refusal.log : Refusal → List Log.Record
  | usage error => error.log
  | _ => []

namespace Parameters

/-- A value that is the divider is taken away. -/
def kept (value : Text) : Option Text :=
  if value = divider then none else some value

/-- In place of a value that was taken away an empty list is shown. -/
def shown (value : Option Text) : Text :=
  value.getD "[]"

def number (label text : Text) : Except UsageError Int :=
  match integer? text with
  | some value => .ok value
  | none => .error (.notANumber label text)

def numeric (reading : Reading) (parameter : Parameter) (wrap : Int → Nat) (default : Nat) :
    Except UsageError Nat :=
  match reading.value? parameter with
  | none => .ok default
  | some value => (number parameter.label (shown (kept value))).map wrap

def modeOf (token : Token) : Except UsageError Mode :=
  match Mode.ofToken? token with
  | some mode => .ok mode
  | none => .error (.unexpected token)

/-- Modes and numbers, with everything but the password. -/
def withoutPassword (reading : Reading) : Except UsageError Parameters := do
  let defaults : Parameters := {}
  let modes ← reading.modes.mapM modeOf
  let passes ← numeric reading .passes wrapPasses defaults.passes
  let memory ← numeric reading .memory wrapMemory defaults.memory
  let lanes ← numeric reading .lanes wrapLanes defaults.lanes
  let threads ← numeric reading .threads wrapThreads defaults.threads
  return {
    tag := ((reading.value? .variant).map kept).getD defaults.tag
    passes, memory, lanes, threads
    mode := .select modes }

def withPassword (parameters : Parameters) (value : Option Text) : Except Refusal Parameters :=
  match value with
  | none => .ok parameters
  | some value =>
      match kept value with
      | none => .error .passwordMissing
      | some value =>
          (value.encoded.mapError .password).map fun bytes =>
            { parameters with password := some bytes }

def ofTokens (tokens : List Token) : Except Refusal Parameters := do
  let reading ← (Reading.ofTokens tokens).mapError .usage
  let parameters ← (withoutPassword reading).mapError .usage
  parameters.withPassword (reading.value? .password)

def log (parameters : Parameters) : Log.Record :=
  { level := .debug, logger := UsageError.logger
    message := Text.ofString "parsed invocation: type=" ++ shown parameters.tag ++
      Text.ofString (s!" t={parameters.passes} m={parameters.memory} " ++
        s!"lanes={parameters.lanes} threads={parameters.threads} mode={parameters.mode.name}") }

end Parameters

end Argon2Workbench.CommandLine
