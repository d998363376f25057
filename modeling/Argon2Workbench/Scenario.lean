import Argon2Workbench.Host
import Argon2Workbench.Measure.Series
import Argon2Workbench.PasswordBuffer

namespace Argon2Workbench

open Hash.Argon2 (Status Variant)

inductive Event where
  | clock (index : Nat)
  | ticks (index : Nat)
  | call (context : Context) (variant : Variant)
deriving DecidableEq

inductive Primitive where
  | real
  /-- The statuses of the calls in their order; nothing is hashed. -/
  | scripted (status : Nat → Status)

structure Scenario where
  clock : Series Binary64 := fun _ => none
  ticks : Series Int := fun _ => none
  primitive : Primitive := .real
  stamp : String := Log.Moment.stamp {}
  files : Files := {}
  allocator : Allocator := {}
  stream : Log.Stream := {}
  password : PasswordBuffer := .fill []
  output : Text := []
  complaints : Text := []
  records : List Log.Record := []
  /-- The level from which on no record may be lost. -/
  exacting : Option Log.Level := none
  clockReads : Nat := 0
  tickReads : Nat := 0
  calls : Nat := 0
  events : List Event := []

namespace Scenario

abbrev Run := StateM Scenario

def readClock : Run (Option Binary64) := fun scenario =>
  (scenario.clock scenario.clockReads,
   { scenario with
     clockReads := scenario.clockReads + 1
     events := scenario.events ++ [.clock scenario.clockReads] })

def readTicks : Run (Option Int) := fun scenario =>
  (scenario.ticks scenario.tickReads,
   { scenario with
     tickReads := scenario.tickReads + 1
     events := scenario.events ++ [.ticks scenario.tickReads] })

def invoke [Machine] (context : Context) (variant : Variant) (recording : Bool) : Run Invocation :=
  fun scenario =>
    let invocation := context.invoke variant recording scenario.allocator
    (invocation, { scenario with allocator := invocation.allocator })

def answer [Machine] (scenario : Scenario) (context : Context) (variant : Variant) : Invocation :=
  match scenario.primitive with
  | .real => context.invoke variant false scenario.allocator
  | .scripted status =>
      { result := .ok (status scenario.calls), context, allocator := scenario.allocator }

def measured [Machine] (context : Context) (variant : Variant) : Run Invocation := fun scenario =>
  let invocation := scenario.answer context variant
  (invocation,
   { scenario with
     allocator := invocation.allocator
     calls := scenario.calls + 1
     events := scenario.events ++ [.call context variant] })

def discard (path : Text) : Run (Except Files.Error Bool) := fun scenario =>
  match scenario.files.discard path with
  | .ok (files, removed) => (.ok removed, { scenario with files })
  | .error error => (.error error, scenario)

def append (path : Text) (bytes : Bytes) : Run (Except Files.Error Unit) := fun scenario =>
  match scenario.files.append path bytes with
  | .ok files => (.ok (), { scenario with files })
  | .error error => (.error error, scenario)

def log (record : Log.Record) : Run Unit := fun scenario =>
  ((), { scenario with
    records := scenario.records ++ [record]
    complaints := scenario.complaints ++ scenario.stream.written scenario.stamp record })

def configureLog (levelName : Text) (jsonLines : Bool) : Run (Except Log.LevelError Unit) :=
  fun scenario =>
    let (stream, result) := scenario.stream.configure levelName jsonLines
    (result, { scenario with stream })

instance [Machine] : Host Run where
  clock := readClock
  ticks := readTicks
  invoke := invoke
  measured := measured
  discard := discard
  append := append
  print text := modify fun scenario => { scenario with output := scenario.output ++ text }
  complain text :=
    modify fun scenario => { scenario with complaints := scenario.complaints ++ text }
  log := log
  exacting level := fun scenario => (scenario.exacting.any (· ≤ level), scenario)
  configureLog := configureLog
  hold bytes := modify fun scenario => { scenario with password := .fill bytes }
  revise change := modify fun scenario =>
    { scenario with password := scenario.password.replace (change scenario.password.contents) }

def run {Result : Type} (scenario : Scenario) (program : Host.Program Run Result) :
    Except Fault Result × Scenario :=
  StateT.run (ExceptT.run program) scenario

section

variable {First Second : Type} (scenario : Scenario)

theorem run_pure (result : First) :
    scenario.run (pure result) = (.ok result, scenario) :=
  rfl

theorem run_bind (program : Host.Program Run First) (next : First → Host.Program Run Second) :
    scenario.run (program >>= next) =
      match scenario.run program with
      | (.ok result, after) => after.run (next result)
      | (.error fault, after) => (.error fault, after) := by
  simp only [run, ExceptT.run, bind, ExceptT.bind, ExceptT.mk, StateT.run, StateT.bind]
  rcases program scenario with ⟨outcome, after⟩
  cases outcome <;> rfl

theorem run_orFault_ok {Reason : Type} (fault : Reason → Fault) (result : First) :
    scenario.run (Host.orFault fault (.ok result)) = (.ok result, scenario) :=
  rfl

theorem run_orFault_error {Reason : Type} (fault : Reason → Fault) (reason : Reason) :
    scenario.run (Host.orFault fault (.error reason : Except Reason First)) =
      (.error (fault reason), scenario) :=
  rfl

def lent (password : Bytes) : Scenario :=
  { scenario with password := .fill password }

/-- The scenario once a password that was lent is zeroed and its buffer emptied. -/
def returned (password : Bytes) : Scenario :=
  { scenario with
    password := (scenario.password.replace (Bytes.zeros password.length)).replace [] }

/-- However a program ends, the password that was lent to it is returned after it. -/
theorem run_lending [Machine] (password : Bytes) (program : Host.Program Run First) :
    scenario.run (Host.lending password program) =
      let (outcome, after) := (scenario.lent password).run program
      (outcome, after.returned password) :=
  rfl

end

end Scenario

end Argon2Workbench
