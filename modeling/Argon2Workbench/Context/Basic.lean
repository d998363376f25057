import Argon2Workbench.Buffer
import Argon2Workbench.Hash.Argon2.Status
import Argon2Workbench.Number.Numeral
import Argon2Workbench.Text.Rune

/-! Hash contexts: all that one call into the primitive is made with.

A context is built from a request and never changes its parameters afterwards. Only
the output buffer and a password buffer that may be wiped are written to.
-/

namespace Argon2Workbench

open Hash.Argon2 (Inputs Variant)

variable [Machine]

def maxLanes : Nat := 0xffffff
def maxThreads : Nat := 0xffffff
def maxPasses : Nat := 0xffffff

inductive Callbacks where
  | neither
  | allocateOnly
  | freeOnly
  | both
deriving DecidableEq, Repr

structure Request where
  outputLength : Int
  password : Bytes
  /-- Whether the password is in a buffer that may be written to. -/
  wipeable : Bool := true
  salt : Bytes
  passes : Int
  memory : Int
  lanes : Int
  threads : Int
  secret : Option Bytes := none
  associated : Option Bytes := none
  callbacks : Callbacks := .neither
  clearPassword : Bool := false
  clearSecret : Bool := false
  clearMemory : Bool := false
  printInternals : Bool := false
deriving DecidableEq, Repr

structure Context where
  outputLength : Nat
  /-- What was written at the start of the output buffer, which is zero behind it. -/
  written : Bytes
  password : Bytes
  wipeable : Bool
  salt : Bytes
  secret : Option Bytes
  associated : Option Bytes
  passes : Nat
  /-- Kibibytes, a power of two. -/
  memory : Nat
  lanes : Nat
  threads : Nat
  customAllocator : Bool
  clearPassword : Bool
  clearSecret : Bool
  clearMemory : Bool
  printInternals : Bool
deriving DecidableEq, Repr

inductive ContextError where
  | outputLength (given : Int)
  | lanes (given : Int)
  | threads (given : Int)
  | memory (given : Int)
  | passes (given : Int)
  | callbacks
  | assignment (name : Text)
  | deletion (name : Text)
deriving DecidableEq, Repr

/-- The message shows the value that was given. One that is too long to be written leaves only
the error of writing it, which is raised in the place of this one. -/
def ContextError.message : ContextError → Except Numeral.DigitsError Text
  | outputLength given => shown "output length must be positive" given
  | lanes given => shown s!"lanes must be in 1..{maxLanes}" given
  | threads given => shown s!"threads must be in 1..{maxThreads}" given
  | memory given => shown "memory cost must be a power of two" given
  | passes given => shown "time cost must fit in 24 bits" given
  | callbacks => .ok "allocate and free callbacks must be set together"
  | assignment name => .ok <|
      Text.ofString "HashContext is write-once; cannot set '" ++ name ++ Text.ofString "'"
  | deletion name => .ok <|
      Text.ofString "HashContext is write-once; cannot delete '" ++ name ++ Text.ofString "'"
where
  shown (requirement : String) (given : Int) : Except Numeral.DigitsError Text :=
    (Numeral.written given).map fun digits => Text.ofString s!"{requirement}, got {digits}"

inductive BuildError where
  | violation (error : ContextError)
  | buffer (error : BufferError)
deriving DecidableEq, Repr

def BuildError.message : BuildError → Except Numeral.DigitsError Text
  | violation error => error.message
  | buffer error => .ok error.message

def isPowerOfTwo (value : Int) : Bool :=
  0 < value && value.toNat &&& (value.toNat - 1) == 0

namespace Request

/-- The first requirement that the request misses. -/
def violation? (request : Request) : Option ContextError :=
  if request.outputLength ≤ 0 then some (.outputLength request.outputLength)
  else if ¬ (1 ≤ request.lanes ∧ request.lanes ≤ maxLanes) then some (.lanes request.lanes)
  else if ¬ (1 ≤ request.threads ∧ request.threads ≤ maxThreads) then
    some (.threads request.threads)
  else if !isPowerOfTwo request.memory then some (.memory request.memory)
  else if request.passes < 0 ∨ maxPasses < request.passes then some (.passes request.passes)
  else if request.callbacks = .allocateOnly ∨ request.callbacks = .freeOnly then some .callbacks
  else none

/-- An empty field counts as absent. -/
def present (field : Option Bytes) : Option Bytes :=
  field.filter fun bytes => !bytes.isEmpty

def context (request : Request) : Context :=
  { outputLength := request.outputLength.toNat
    written := []
    password := request.password
    wipeable := request.wipeable
    salt := request.salt
    secret := present request.secret
    associated := present request.associated
    passes := request.passes.toNat
    memory := request.memory.toNat
    lanes := request.lanes.toNat
    threads := request.threads.toNat
    customAllocator := request.callbacks = .both
    clearPassword := request.clearPassword
    clearSecret := request.clearSecret
    clearMemory := request.clearMemory
    printInternals := request.printInternals }

/-- The requirements are looked at before there is any buffer. -/
def build (request : Request) : Except BuildError Context :=
  match request.violation? with
  | some error => .error (.violation error)
  | none => match BufferError.ofLength? request.outputLength.toNat with
    | some error => .error (.buffer error)
    | none => .ok request.context

end Request

namespace Context

def output (context : Context) : Bytes :=
  context.written ++ Bytes.zeros (context.outputLength - context.written.length)

def minBlocksPerLane : Nat := 8

/-- The memory that the primitive is handed: eight blocks for every lane at least. -/
def effectiveMemory (context : Context) : Nat :=
  max context.memory (minBlocksPerLane * context.lanes)

/-- The inputs of the tag. Neither threads nor flags are among them. -/
def inputs (context : Context) : Inputs :=
  { password := context.password
    salt := context.salt
    secret := context.secret.getD []
    associated := context.associated.getD []
    tagLength := context.outputLength
    passes := context.passes
    memory := context.effectiveMemory
    lanes := context.lanes }

/-- Assigning to an attribute fails, whatever the name. -/
def assign (_ : Context) (name : Text) : Except ContextError Context :=
  .error (.assignment name)

def delete (_ : Context) (name : Text) : Except ContextError Context :=
  .error (.deletion name)

def truth (value : Bool) : String :=
  if value then "True" else "False"

/-- A summary in which neither password nor secret shows. -/
def summary (context : Context) : String :=
  s!"HashContext(outlen={context.outputLength}, pwdlen={context.password.length}, " ++
  s!"saltlen={context.salt.length}, t_cost={context.passes}, m_cost={context.memory}, " ++
  s!"lanes={context.lanes}, threads={context.threads}, " ++
  s!"print_internals={truth context.printInternals})"

end Context

end Argon2Workbench
