import Argon2Workbench.Host
import Std.Time.DateTime.Timestamp

namespace Argon2Workbench

variable [Machine]

structure Station where
  stream : IO.Ref Log.Stream
  password : IO.Ref Bytes

namespace Station

abbrev Run := ReaderT Station IO

def nanoseconds : IO Int := do
  return (← Std.Time.Timestamp.now).toNanosecondsSinceUnixEpoch.val

def readClock : IO (Option Binary64) := do
  return (Binary64.quotient (← nanoseconds) (tenTo 9)).toOption

def stamp : IO String := do
  let milliseconds := (← nanoseconds).fdiv (tenTo 6)
  let moment : Log.Moment :=
    { seconds := milliseconds.fdiv 1000, milliseconds := milliseconds.fmod 1000 }
  return moment.stamp

/-- The refusal that a code of the operating system stands for. Some operations hand in
the negated code. -/
def refusal? (code : UInt32) : Option Files.Refusal :=
  [.noEntry, .isDirectory, .notDirectory, .nameTooLong].find? fun refusal =>
    code == refusal.code.toUInt32 || code == -refusal.code.toUInt32

def codeOf? : IO.Error → Option UInt32
  | .noFileOrDirectory _ code _ => some code
  | .inappropriateType _ code _ => some code
  | .invalidArgument _ code _ => some code
  | .otherError code _ => some code
  | _ => none

def attempt (path : Text) (action : IO Unit) : IO (Except Files.Error Unit) := do
  if path.contains (.scalar '\x00') then return .error .embeddedNull
  try
    action
    return .ok ()
  catch error =>
    match (codeOf? error).bind refusal? with
    | some reason => return .error (.refused reason path)
    | none => throw error

def discard (path : Text) : IO (Except Files.Error Bool) := do
  match ← attempt path (IO.FS.removeFile path.printed) with
  | .ok () => return .ok true
  | .error (.refused .noEntry _) => return .ok false
  | .error error => return .error error

def append (path : Text) (bytes : Bytes) : IO (Except Files.Error Unit) :=
  attempt path do
    let handle ← IO.FS.Handle.mk path.printed .append
    handle.write ⟨bytes.toArray⟩
    handle.flush

/-- The call is made when it is its turn, so that readings stand around it. -/
def invoke (context : Context) (variant : Hash.Argon2.Variant) (recording : Bool) :
    IO Invocation :=
  IO.lazyPure fun _ => context.invoke variant recording {}

def log (record : Log.Record) : Run Unit := do
  let station ← read
  let stream ← station.stream.get
  IO.eprint (stream.written (← stamp) record).printed

def configureLog (levelName : Text) (jsonLines : Bool) :
    Run (Except Log.LevelError Unit) := do
  let station ← read
  let (stream, result) := (← station.stream.get).configure levelName jsonLines
  station.stream.set stream
  return result

instance : Host Run where
  clock := readClock
  ticks := return some (Int.ofNat (← IO.monoNanosNow))
  invoke context variant recording := invoke context variant recording
  measured context variant := invoke context variant false
  discard path := discard path
  append path bytes := append path bytes
  print text := do
    let output ← IO.getStdout
    output.putStr text.printed
    output.flush
  complain text := IO.eprint text.printed
  log := log
  exacting _ := return false
  configureLog := configureLog
  hold bytes := do (← read).password.set bytes
  revise change := do (← read).password.modify change

/-- Runs a program to its exit status. A fault that it does not report itself is shown. -/
def execute (program : Host.Program Run Nat) : IO UInt32 := do
  let station : Station := { stream := ← IO.mkRef {}, password := ← IO.mkRef [] }
  match ← program.run.run station with
  | .ok status => return status.toUInt32
  | .error fault =>
      IO.eprintln fault.message.printed
      return 1

def environment : IO (String → Option Text) := do
  let found ← Settings.variableNames.mapM fun name =>
    return (name, (← IO.getEnv name).map Text.ofString)
  return fun name => (found.lookup name).join

end Station

end Argon2Workbench
