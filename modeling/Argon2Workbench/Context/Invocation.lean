import Argon2Workbench.Allocator
import Argon2Workbench.Context.Record
import Argon2Workbench.Hash.Argon2.Memory

/-! One call into the primitive.

The call leaves everything as it was unless it succeeds. A successful one replaces the
output buffer by the tag, yields a record if the context asks for one and somebody takes
it, and wipes the password last, so that the record still shows it.
-/

namespace Argon2Workbench

open Hash.Argon2 (Variant Status)

variable [Machine]

inductive InvocationError where
  | range (error : RangeError)
  | pack (error : PackError)
deriving DecidableEq, Repr

def InvocationError.message : InvocationError → String
  | range error => error.message
  | pack error => error.message

structure Invocation where
  result : Except InvocationError Status
  context : Context
  allocator : Allocator
  record : Option String := none
  log : List Log.Record := []

namespace Context

def invocationLogger : String := "argon2_harness.crypto.primitive"

/-- The numbers that are handed over in 32 bits, in their order. -/
def marshalled (context : Context) : List Nat :=
  [context.outputLength, context.password.length, context.salt.length,
   (context.secret.getD []).length, (context.associated.getD []).length,
   context.passes, context.effectiveMemory, context.lanes, context.threads]

def unmarshallable? (context : Context) : Option RangeError :=
  (context.marshalled.find? (twoTo 32 ≤ ·)).map fun value => ⟨value, .unsigned⟩

def raisedLog (context : Context) (variant : Variant) : List Log.Record :=
  if context.effectiveMemory = context.memory then []
  else [{
    level := .info, logger := invocationLogger
    message := s!"raising m_cost from {context.memory} to {context.effectiveMemory} " ++
      s!"for {context.lanes} lanes"
    fields := { memory := some (.ofNat context.effectiveMemory)
                variant := some variant.letter } }]

def failureLog (variant : Variant) (status : Status) : Log.Record :=
  { level := .error, logger := invocationLogger
    message := s!"Argon2{variant.letter} returned {status}: {status.text}"
    fields := { status := some (.integer status), variant := some variant.letter } }

/-- Puts the working area on the context's own allocator, if it has one, and takes it
back at once, for between the two the allocator is not called. Without one the area only
has to find memory. -/
def reserve (context : Context) (allocator : Allocator) :
    Allocator × Bool × List Log.Record :=
  if context.customAllocator then
    let length := context.inputs.workingBytes
    let address := allocator.freshAddress
    match allocator.allocate length address with
    | .error _ => (allocator, false, [])
    | .ok allocation =>
        match allocation.granted with
        | none => (allocation.allocator, false, allocation.log)
        | some _ =>
            let (freed, log) := allocation.allocator.free (some address) length
            (freed, true, allocation.log ++ log)
  else (allocator, context.inputs.workingBytes < Machine.memory, [])

/-- The status of a call whose numbers are all in range, and what is left of the
allocator. -/
def status (context : Context) (allocator : Allocator) : Allocator × Status × List Log.Record :=
  match context.inputs.refusal? with
  | some refused => (allocator, refused, [])
  | none =>
      let (allocator, reserved, log) := context.reserve allocator
      (allocator, if reserved then Status.ok else Status.allocationFailed, log)

def withTag (context : Context) (variant : Variant) : Context :=
  { context with written := Hash.Argon2.tag variant context.inputs }

/-- Zeros the password where that is asked for and the buffer can be written to. -/
def wiped (context : Context) : Context :=
  if context.clearPassword && context.wipeable then
    { context with password := Bytes.zeros context.password.length }
  else context

/-- The call. `recording` says whether somebody takes a record. -/
def invoke (context : Context) (variant : Variant) (recording : Bool) (allocator : Allocator) :
    Invocation :=
  let raised := context.raisedLog variant
  match context.unmarshallable? with
  | some error => { result := .error (.range error), context, allocator, log := raised }
  | none =>
      let (allocator, status, log) := context.status allocator
      if status = Status.ok then
        let finished := context.withTag variant
        let log := raised ++ log
        if recording && context.printInternals then
          match finished.record variant with
          | .error error => { result := .error (.pack error), context := finished, allocator, log }
          | .ok record =>
              { result := .ok status, context := finished.wiped, allocator
                record := some record, log }
        else { result := .ok status, context := finished.wiped, allocator, log }
      else
        { result := .ok status, context, allocator
          log := raised ++ log ++ [failureLog variant status] }

end Context

end Argon2Workbench
