import Argon2Workbench.Fault
import Argon2Workbench.PasswordBuffer

/-! What a program asks of its surroundings.

The programs are written over these operations alone, so the order in which they are
performed is part of a program, and whoever provides them decides what time it is and
where the files are.
-/

namespace Argon2Workbench

open Hash.Argon2 (Variant)

class Host (m : Type → Type) where
  clock : m (Option Binary64)
  ticks : m (Option Int)
  /-- Calls the primitive; the last argument says whether a record is taken. -/
  invoke : Context → Variant → Bool → m Invocation
  measured : Context → Variant → m Invocation
  discard : Text → m (Except Files.Error Bool)
  append : Text → Bytes → m (Except Files.Error Unit)
  print : Text → m Unit
  complain : Text → m Unit
  log : Log.Record → m Unit
  /-- Whether a record of a level must not be lost, so that one which cannot be written ends
  the program. -/
  exacting : Log.Level → m Bool
  configureLog : (levelName : Text) → (jsonLines : Bool) → m (Except Log.LevelError Unit)
  hold : Bytes → m Unit
  revise : (Bytes → Bytes) → m Unit

namespace Host

variable {m : Type → Type} [Monad m] [Host m]

abbrev Program (m : Type → Type) := ExceptT Fault m

def orFault {Result Reason : Type} (fault : Reason → Fault) :
    Except Reason Result → Program m Result
  | .ok result => pure result
  | .error reason => throw (fault reason)

def readClock : Program m Binary64 := do
  match ← (clock : m _) with
  | some reading => return reading
  | none => throw .seriesEnded

def readCycles (counter : CycleCounter) : Program m Int := do
  match ← (ticks : m _) with
  | some reading => orFault .conversion (counter.cycles reading)
  | none => throw .seriesEnded

def note (records : List Log.Record) : Program m Unit :=
  records.forM fun record => (log record : m Unit)

/-- Logs a record, or does without one that cannot be written. -/
def noteWritten (level : Log.Level) :
    Except Numeral.DigitsError Log.Record → Program m Unit
  | .ok record => note [record]
  | .error error => do
      if ← (exacting level : m _) then throw (.digits error)

/-- A call with all that it leaves behind: its log first, then its record, which goes to
the end of the file at `recordPath`. -/
def settled (call : m Invocation) (recordPath : Text) :
    Program m (Context × Hash.Argon2.Status) := do
  let invocation ← (call : m _)
  note invocation.log
  let status ← orFault .invocation invocation.result
  match invocation.record with
  | none => return (invocation.context, status)
  | some record =>
      orFault .files (← (append recordPath (Text.utf8 record) : m _))
      return (invocation.context, status)

/-- Lends the password buffer and takes it back however the program ends: zeros, as many as
were filled in, take the place of whatever it holds by then, and it is emptied. -/
def lending {Result : Type} (password : Bytes) (program : Program m Result) : Program m Result :=
  ExceptT.mk do
    hold password
    let outcome ← program.run
    (revise (fun _ => Bytes.zeros password.length) : m Unit)
    (revise (fun _ => []) : m Unit)
    return outcome

/-- Changes the password buffer step by step, and then ends with an outcome. -/
def use {Result : Type} (changes : List PasswordBuffer.Change) (outcome : Except Fault Result) :
    Program m Result :=
  match changes with
  | [] => orFault id outcome
  | change :: rest => do
      (revise (fun contents => change.apply contents) : m Unit)
      use rest outcome

end Host

end Argon2Workbench
