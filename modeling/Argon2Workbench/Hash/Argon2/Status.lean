import Argon2Workbench.Hash.Argon2.Inputs
import Argon2Workbench.Range

namespace Argon2Workbench.Hash.Argon2

abbrev Status := Int

namespace Status

def ok : Status := 0
def outputTooShort : Status := -2
def saltTooShort : Status := -6
def passesTooFew : Status := -12
def allocationFailed : Status := -22

/-- The texts of the codes 0, -1, -2 and so on. -/
def texts : List String := [
  "OK",
  "Output pointer is NULL",
  "Output is too short",
  "Output is too long",
  "Password is too short",
  "Password is too long",
  "Salt is too short",
  "Salt is too long",
  "Associated data is too short",
  "Associated data is too long",
  "Secret is too short",
  "Secret is too long",
  "Time cost is too small",
  "Time cost is too large",
  "Memory cost is too small",
  "Memory cost is too large",
  "Too few lanes",
  "Too many lanes",
  "Password pointer is NULL, but password length is not 0",
  "Salt pointer is NULL, but salt length is not 0",
  "Secret pointer is NULL, but secret length is not 0",
  "Associated data pointer is NULL, but ad length is not 0",
  "Memory allocation error",
  "The free memory callback is NULL",
  "The allocate memory callback is NULL",
  "Argon2_Context context is NULL",
  "There is no such version of Argon2",
  "Output pointer mismatch",
  "Not enough threads",
  "Too many threads",
  "Missing arguments",
  "Encoding failed",
  "Decoding failed",
  "Threading failure",
  "Some of encoded parameters are too long or too short",
  "The password does not match the supplied hash"]

def text (status : Status) : String :=
  if status ≤ 0 then texts.getD status.natAbs "Unknown error code" else "Unknown error code"

end Status

structure Failure where
  status : Status
  variant : Variant
deriving DecidableEq, Repr

/-- A code outside 32 bits has no text. -/
def Failure.representable (failure : Failure) : Bool :=
  WordType.signed.holds 32 failure.status

def Failure.message (failure : Failure) : String :=
  s!"Argon2{failure.variant.letter} failed ({failure.status}): {failure.status.text}"

inductive StatusError where
  | failed (failure : Failure)
  | range (error : RangeError)
deriving DecidableEq, Repr

def StatusError.message : StatusError → String
  | failed failure => failure.message
  | range error => error.message

def Status.check (status : Status) (variant : Variant) : Except StatusError Unit :=
  let failure : Failure := { status, variant }
  if status = ok then .ok ()
  else if failure.representable then .error (.failed failure)
  else .error (.range ⟨status, .signed⟩)

/-- The first requirement that inputs miss, in the order in which they are checked. -/
def Inputs.refusal? (inputs : Inputs) : Option Status :=
  if inputs.tagLength < 4 then some Status.outputTooShort
  else if inputs.salt.length < 8 then some Status.saltTooShort
  else if inputs.passes < 1 then some Status.passesTooFew
  else none

def Inputs.workingBytes (inputs : Inputs) : Nat :=
  1024 * (4 * inputs.lanes * (inputs.memory / (4 * inputs.lanes)))

end Argon2Workbench.Hash.Argon2

namespace Argon2Workbench

def Hash.Argon2.Variant.ofTag? (tag : Bytes) : Option Hash.Argon2.Variant :=
  if tag = [0x64] then some .d
  else if tag = [0x69] then some .i
  else none

end Argon2Workbench
