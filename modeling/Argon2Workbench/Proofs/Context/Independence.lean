import Argon2Workbench.Proofs.Context.Construction
import Argon2Workbench.Proofs.Context.Supply
import Argon2Workbench.Proofs.Phc

/-! What a call depends on, and what it does not.

Threads, flags, the allocator, a record that somebody takes and all that stood in the
output buffer leave no trace in what a call is seen to come to. So calls in a row on one
context are like calls on contexts of their own, up to the point from which the password
is wiped.
-/

namespace Argon2Workbench

open Hash.Argon2 (Inputs Status Variant)

namespace Hash.Argon2.Inputs

def numbers (inputs : Inputs) : List Nat :=
  [inputs.tagLength, inputs.password.length, inputs.salt.length, inputs.secret.length,
   inputs.associated.length, inputs.passes, inputs.memory, inputs.lanes]

def overflow? (inputs : Inputs) : Option RangeError :=
  (inputs.numbers.find? (twoTo 32 ≤ ·)).map fun value => ⟨value, .unsigned⟩

/-- What a call comes to where nothing is turned down for want of threads or memory of the
caller's own. -/
def answer [Machine] (inputs : Inputs) : Except InvocationError Status :=
  match inputs.overflow? with
  | some error => .error (.range error)
  | none => .ok inputs.outcome

end Hash.Argon2.Inputs

/-- The context that a call leaves, if the call has succeeded. -/
def Invocation.finished? (invocation : Invocation) : Option Context :=
  match invocation.result with
  | .ok status => if status = Status.ok then some invocation.context else none
  | .error _ => none

theorem Invocation.finished?_succeeded {invocation : Invocation}
    (succeeded : invocation.result = .ok Status.ok) :
    invocation.finished? = some invocation.context := by
  simp [finished?, succeeded]

theorem Invocation.finished?_failed {invocation : Invocation}
    (failed : invocation.result ≠ .ok Status.ok) : invocation.finished? = none := by
  cases result : invocation.result with
  | error error => simp [finished?, result]
  | ok status =>
      have other : status ≠ Status.ok := fun same => failed (by rw [result, same])
      simp [finished?, result, other]

namespace Context

variable {context left right : Context} {variant : Variant}
  {allocator freshAllocator : Allocator}

structure Agrees (left right : Context) : Prop where
  password : left.password = right.password
  salt : left.salt = right.salt
  secret : left.secret = right.secret
  associated : left.associated = right.associated
  passes : left.passes = right.passes
  memory : max left.memory (8 * left.lanes) = max right.memory (8 * right.lanes)
  lanes : left.lanes = right.lanes
  outputLength : left.outputLength = right.outputLength

theorem Agrees.inputs (agrees : left.Agrees right) : left.inputs = right.inputs := by
  have memory : left.effectiveMemory = right.effectiveMemory := agrees.memory
  simp only [Context.inputs, agrees.password, agrees.salt, agrees.secret, agrees.associated,
    agrees.passes, memory, agrees.lanes, agrees.outputLength]

theorem prehash_congr (same : left.inputs = right.inputs) (variant : Variant) :
    left.prehash variant = right.prehash variant := by
  have lanes : left.lanes = right.lanes := congrArg Inputs.lanes same
  have output : left.outputLength = right.outputLength := congrArg Inputs.tagLength same
  have memory : left.effectiveMemory = right.effectiveMemory := congrArg Inputs.memory same
  have passes : left.passes = right.passes := congrArg Inputs.passes same
  have password : left.password = right.password := congrArg Inputs.password same
  have salt : left.salt = right.salt := congrArg Inputs.salt same
  have secret : left.secret.getD [] = right.secret.getD [] := congrArg Inputs.secret same
  have associated : left.associated.getD [] = right.associated.getD [] :=
    congrArg Inputs.associated same
  simp only [prehash, lanes, output, memory, passes, password, salt, secret, associated]

theorem encode_congr (same : Phc.ofContext left variant = Phc.ofContext right variant)
    (capacity : Int) :
    left.encode variant capacity = right.encode variant capacity := by
  simp only [encode, same]

theorem ofContext_congr (same : left.inputs = right.inputs) (variant : Variant) :
    Phc.ofContext (left.withTag variant).wiped variant =
      Phc.ofContext (right.withTag variant).wiped variant := by
  have lanes : left.lanes = right.lanes := congrArg Inputs.lanes same
  have passes : left.passes = right.passes := congrArg Inputs.passes same
  have salt : left.salt = right.salt := congrArg Inputs.salt same
  simp only [Phc.ofContext_wiped, Phc.ofContext_withTag, same, lanes, passes, salt]

theorem unmarshallable?_eq_overflow? (narrow : context.threads < twoTo 32) :
    context.unmarshallable? = context.inputs.overflow? := by
  have split : context.marshalled = context.inputs.numbers ++ [context.threads] := rfl
  have last : [context.threads].find? (fun value => decide (twoTo 32 ≤ value)) = none := by
    simpa using narrow
  rw [unmarshallable?, Inputs.overflow?, split, List.find?_append, last, Option.or_none]

/-- Nothing stands against a call on the context but what its inputs are. -/
structure Unhindered (context : Context) (allocator : Allocator) : Prop where
  threads : context.threads < twoTo 32
  supplied : context.Supplied allocator

variable [Machine]

theorem Unhindered.result (unhindered : context.Unhindered allocator) (variant : Variant)
    (recording : Bool) :
    (context.invoke variant recording allocator).result = context.inputs.answer := by
  have overflow := unmarshallable?_eq_overflow? unhindered.threads
  have status := status_supplied unhindered.supplied
  cases fits : context.unmarshallable? with
  | some error => simp [invoke, Inputs.answer, ← overflow, fits]
  | none =>
      simp only [Inputs.answer, ← overflow, fits]
      rw [result_of_fits fits, status]

/-- A call, and the buffer for the encoded hash that is written after it. -/
structure Call where
  variant : Variant
  recording : Bool := false
  capacity : Int := 300

/-- What is seen of a call: the digest of its inputs before it, what it returned, and, if it
has succeeded, the tag and the encoded hash after it. -/
structure Observation where
  digest : Except PackError Bytes
  result : Except InvocationError Status
  tag : Option Bytes
  encoded : Option (Except EncodingError String)

def Observation.Succeeded (observation : Observation) : Prop :=
  observation.result = .ok Status.ok

def observe (context : Context) (allocator : Allocator) (call : Call) : Observation :=
  let invocation := context.invoke call.variant call.recording allocator
  { digest := context.prehash call.variant
    result := invocation.result
    tag := invocation.finished?.map Context.output
    encoded := invocation.finished?.map (·.encode call.variant call.capacity) }

theorem observe_succeeded (call : Call)
    (succeeded : (context.invoke call.variant call.recording allocator).result = .ok Status.ok) :
    context.observe allocator call =
      let hash := Phc.ofContext (context.withTag call.variant).wiped call.variant
      { digest := context.prehash call.variant, result := .ok Status.ok, tag := some hash.tag
        encoded := some ((context.withTag call.variant).wiped.encode call.variant
          call.capacity) } := by
  obtain ⟨-, -, finished⟩ := invoke_succeeded succeeded
  simp only [observe, Invocation.finished?_succeeded succeeded, succeeded, finished,
    Option.map_some, Phc.ofContext]

theorem observe_failed (call : Call)
    (failed : (context.invoke call.variant call.recording allocator).result ≠ .ok Status.ok) :
    context.observe allocator call =
      { digest := context.prehash call.variant
        result := (context.invoke call.variant call.recording allocator).result
        tag := none, encoded := none } := by
  simp only [observe, Invocation.finished?_failed failed, Option.map_none]

theorem observe_congr {leftAllocator rightAllocator : Allocator} (same : left.inputs = right.inputs)
    (leftFree : left.Unhindered leftAllocator) (rightFree : right.Unhindered rightAllocator)
    (leftRecording rightRecording : Bool) (variant : Variant) (capacity : Int) :
    left.observe leftAllocator ⟨variant, leftRecording, capacity⟩ =
      right.observe rightAllocator ⟨variant, rightRecording, capacity⟩ := by
  have leftResult := leftFree.result variant leftRecording
  have rightResult := rightFree.result variant rightRecording
  rw [← same] at rightResult
  have digest := prehash_congr same variant
  by_cases done : left.inputs.answer = .ok Status.ok
  · have hash := ofContext_congr same variant
    have encoded := encode_congr hash capacity
    rw [done] at leftResult rightResult
    simp only [observe_succeeded ⟨variant, leftRecording, capacity⟩ leftResult,
      observe_succeeded ⟨variant, rightRecording, capacity⟩ rightResult, digest, hash,
      encoded]
  · rw [observe_failed _ (by rw [leftResult]; exact done),
      observe_failed _ (by rw [rightResult]; exact done)]
    simp only [leftResult, rightResult, digest]

end Context

end Argon2Workbench
