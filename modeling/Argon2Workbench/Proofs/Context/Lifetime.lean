import Argon2Workbench.Proofs.Context.Construction
import Argon2Workbench.RunReport
import Mathlib

namespace Argon2Workbench

open Hash.Argon2 (Status Variant)

/-- The bit trick is right for every integer. -/
theorem isPowerOfTwo_iff (value : Int) :
    isPowerOfTwo value = true ↔ ∃ exponent : Nat, value = 2 ^ exponent := by
  simp only [isPowerOfTwo, Bool.and_eq_true, decide_eq_true_eq, beq_iff_eq]
  constructor
  · rintro ⟨positive, masked⟩
    have natural : value.toNat ≠ 0 := by omega
    obtain ⟨exponent, power⟩ := (Nat.and_sub_one_eq_zero_iff_isPowerOfTwo natural).mp masked
    refine ⟨exponent, ?_⟩
    rw [← Int.toNat_of_nonneg (Int.le_of_lt positive), power]
    norm_cast
  · rintro ⟨exponent, rfl⟩
    have same : ((2 : Int) ^ exponent).toNat = 2 ^ exponent := by
      have cast : (2 : Int) ^ exponent = ((2 ^ exponent : Nat) : Int) := by norm_cast
      rw [cast, Int.toNat_natCast]
    have natural : 2 ^ exponent ≠ 0 := Nat.pos_iff_ne_zero.mp (Nat.two_pow_pos exponent)
    refine ⟨Int.pow_pos (by decide), ?_⟩
    rw [same]
    exact (Nat.and_sub_one_eq_zero_iff_isPowerOfTwo natural).mpr ⟨exponent, rfl⟩

namespace Request

variable {request : Request} {error : ContextError} {context : Context}

/-- What a request must meet, in the order in which it is looked at, each with the error
that stands for it. -/
def requirements (request : Request) : List (Prop × ContextError) :=
  [(0 < request.outputLength, .outputLength request.outputLength),
   (1 ≤ request.lanes ∧ request.lanes ≤ 16777215, .lanes request.lanes),
   (1 ≤ request.threads ∧ request.threads ≤ 16777215, .threads request.threads),
   (∃ exponent : Nat, request.memory = 2 ^ exponent, .memory request.memory),
   (0 ≤ request.passes ∧ request.passes < 2 ^ 24, .passes request.passes),
   (request.callbacks = .neither ∨ request.callbacks = .both, .callbacks)]

def MeetsAll (request : Request) : Prop :=
  ∀ requirement ∈ request.requirements, requirement.1

/-- The error stands for the first requirement that is missed. -/
def FirstMissed (request : Request) (error : ContextError) : Prop :=
  ∃ met missed later, request.requirements = met ++ (missed, error) :: later ∧
    (∀ requirement ∈ met, requirement.1) ∧ ¬ missed

open Classical in
theorem find?_missed_cons (requirement : Prop) (error : ContextError)
    (rest : List (Prop × ContextError)) :
    (((requirement, error) :: rest).find? fun one => decide ¬ one.1).map (·.2) =
      if requirement then (rest.find? fun one => decide ¬ one.1).map (·.2) else some error := by
  by_cases met : requirement
  · rw [List.find?_cons_of_neg (by simpa using met), if_pos met]
  · rw [List.find?_cons_of_pos (by simpa using met), if_neg met, Option.map_some]

open Classical in
theorem violation?_eq_find? (request : Request) :
    request.violation? =
      (request.requirements.find? fun requirement => decide ¬ requirement.1).map (·.2) := by
  have passes : (request.passes < 0 ∨ (maxPasses : Int) < request.passes) ↔
      ¬ (0 ≤ request.passes ∧ request.passes < 2 ^ 24) := by
    have most : (maxPasses : Int) = 16777215 := rfl
    omega
  have callbacks : (request.callbacks = .allocateOnly ∨ request.callbacks = .freeOnly) ↔
      ¬ (request.callbacks = .neither ∨ request.callbacks = .both) := by
    cases request.callbacks <;> simp
  have power : (!isPowerOfTwo request.memory) = true ↔
      ¬ ∃ exponent : Nat, request.memory = 2 ^ exponent := by
    rw [← isPowerOfTwo_iff, Bool.not_eq_true', Bool.not_eq_true]
  have output : request.outputLength ≤ 0 ↔ ¬ 0 < request.outputLength := Int.not_lt.symm
  simp only [violation?, requirements, find?_missed_cons, List.find?_nil, Option.map_none,
    output, power, passes, callbacks, ite_not]
  congr

theorem violation?_eq_some_iff : request.violation? = some error ↔ request.FirstMissed error := by
  classical
  rw [violation?_eq_find?, Option.map_eq_some_iff, FirstMissed]
  constructor
  · rintro ⟨⟨missed, error⟩, found, rfl⟩
    obtain ⟨holds, met, later, same, before⟩ := List.find?_eq_some_iff_append.mp found
    exact ⟨met, missed, later, same, fun one member => by simpa using before one member,
      by simpa using holds⟩
  · rintro ⟨met, missed, later, same, before, fails⟩
    refine ⟨(missed, error), List.find?_eq_some_iff_append.mpr ⟨by simpa using fails, met, later,
      same, fun one member => by simpa using before one member⟩, rfl⟩

theorem violation?_eq_none_iff : request.violation? = none ↔ request.MeetsAll := by
  classical
  rw [violation?_eq_find?, Option.map_eq_none_iff, List.find?_eq_none, MeetsAll]
  simp only [decide_not, Bool.not_eq_true', decide_eq_false_iff_not, Classical.not_not]

theorem build_eq_ok_iff [Machine] :
    request.build = .ok context ↔ request.MeetsAll ∧
      BufferError.ofLength? request.outputLength.toNat = none ∧ context = request.context := by
  rw [← violation?_eq_none_iff]
  cases violation : request.violation? with
  | some error => simp [build, violation]
  | none =>
      cases buffer : BufferError.ofLength? request.outputLength.toNat with
      | some error => simp [build, violation, buffer]
      | none => simp [build, violation, buffer, eq_comm]

theorem build_eq_violation_iff [Machine] :
    request.build = .error (.violation error) ↔ request.FirstMissed error := by
  rw [← violation?_eq_some_iff]
  cases violation : request.violation? with
  | some error => simp [build, violation]
  | none =>
      cases buffer : BufferError.ofLength? request.outputLength.toNat <;>
        simp [build, violation, buffer]

theorem build_eq_buffer_iff [Machine] {missing : BufferError} :
    request.build = .error (.buffer missing) ↔ request.MeetsAll ∧
      BufferError.ofLength? request.outputLength.toNat = some missing := by
  rw [← violation?_eq_none_iff]
  cases violation : request.violation? with
  | some error => simp [build, violation]
  | none =>
      cases buffer : BufferError.ofLength? request.outputLength.toNat <;>
        simp [build, violation, buffer]

end Request

inductive RecordTaker where
  | nobody
  | willing
  | failing
deriving DecidableEq, Repr

/-- What a context is used for. A call finds the allocator as the calls on other contexts
have left it. -/
inductive Operation where
  | invoke (variant : Variant) (taker : RecordTaker) (allocator : Allocator)
  | encode (variant : Variant) (capacity : Int)
  | prehash (variant : Variant)
  | record (variant : Variant)
  | report (variant : Variant) (password : Bytes) (seconds mebicycles : Binary64) (capacity : Int)
  | assign (name : Text)
  | delete (name : Text)

inductive Reply where
  | invoked (result : Except InvocationError Status)
  | interrupted
  | encoded (result : Except EncodingError String)
  | digest (result : Except PackError Bytes)
  | record (result : Except PackError String)
  | report (result : Except EncodingError RunReport)
  | changed
  | refused (error : ContextError)

namespace Context

/-- A record that is not taken ends a call before the password is wiped. -/
def perform [Machine] (context : Context) : Operation → Context × Reply
  | .invoke variant taker allocator =>
      let invocation := context.invoke variant (taker ≠ .nobody) allocator
      if taker = .failing ∧ invocation.record.isSome then (context.withTag variant, .interrupted)
      else (invocation.context, .invoked invocation.result)
  | .encode variant capacity => (context, .encoded (context.encode variant capacity))
  | .prehash variant => (context, .digest (context.prehash variant))
  | .record variant => (context, .record (context.record variant))
  | .report variant password seconds mebicycles capacity =>
      (context, .report (context.report variant password seconds mebicycles capacity))
  | .assign name =>
      match context.assign name with
      | .ok changed => (changed, .changed)
      | .error error => (context, .refused error)
  | .delete name =>
      match context.delete name with
      | .ok changed => (changed, .changed)
      | .error error => (context, .refused error)

def after [Machine] (context : Context) : List Operation → Context
  | [] => context
  | operation :: rest => (context.perform operation).1.after rest

variable {context : Context}

theorem continues_perform [Machine] (filled : context.output.length = context.outputLength)
    (operation : Operation) : context.Continues (context.perform operation).1 := by
  cases operation with
  | invoke variant taker allocator =>
      simp only [perform]
      split
      · have output : (context.withTag variant).output.length = context.output.length := by
          rw [length_output_withTag, filled]
        exact ⟨⟨_, _, rfl⟩, rfl, output⟩
      · exact continues_invoke filled variant _ allocator
  | encode | prehash | record | report | assign | delete => exact .refl context

theorem continues_after [Machine] (filled : context.output.length = context.outputLength)
    (operations : List Operation) : context.Continues (context.after operations) := by
  induction operations generalizing context with
  | nil => exact .refl context
  | cons operation rest ih =>
      have step := continues_perform filled operation
      refine step.trans (ih ?_)
      rw [step.output, filled]
      obtain ⟨_, _, same⟩ := step.buffers
      rw [same]

/-- What a context holds that was built from a request, whatever it was used for since. -/
structure Keeps (request : Request) (context : Context) : Prop where
  outputLength : (context.output.length : Int) = request.outputLength
  passwordLength : context.password.length = request.password.length
  salt : context.salt = request.salt
  secret : context.secret = request.secret.filter (· ≠ [])
  associated : context.associated = request.associated.filter (· ≠ [])
  passes : (context.passes : Int) = request.passes
  memory : (context.memory : Int) = request.memory
  lanes : (context.lanes : Int) = request.lanes
  threads : (context.threads : Int) = request.threads
  callbacks : request.callbacks = if context.customAllocator then .both else .neither
  flags : context.clearPassword = request.clearPassword ∧
    context.clearSecret = request.clearSecret ∧ context.clearMemory = request.clearMemory ∧
    context.printInternals = request.printInternals

structure Sound (context : Context) : Prop where
  output : 0 < context.output.length
  lanes : 1 ≤ context.lanes ∧ context.lanes ≤ 16777215
  threads : 1 ≤ context.threads ∧ context.threads ≤ 16777215
  memory : ∃ exponent : Nat, context.memory = 2 ^ exponent
  passes : context.passes < 2 ^ 24

theorem present_eq (field : Option Bytes) : Request.present field = field.filter (· ≠ []) := by
  cases field with
  | none => rfl
  | some bytes => cases bytes <;> rfl

variable {request : Request}

theorem Keeps.of_built (met : request.MeetsAll) : Keeps request request.context := by
  simp only [Request.MeetsAll, Request.requirements, List.forall_mem_cons] at met
  obtain ⟨output, lanes, threads, ⟨exponent, memory⟩, passes, callbacks, -⟩ := met
  have positive : (0 : Int) < 2 ^ exponent := Int.pow_pos (by decide)
  have length : request.context.output.length = request.outputLength.toNat :=
    request.length_output_context
  refine ⟨?_, rfl, rfl, present_eq _, present_eq _, ?_, ?_, ?_, ?_, ?_, rfl, rfl, rfl, rfl⟩
  · rw [length]
    exact Int.toNat_of_nonneg (Int.le_of_lt output)
  · exact Int.toNat_of_nonneg passes.1
  · exact Int.toNat_of_nonneg (by omega)
  · exact Int.toNat_of_nonneg (by omega)
  · exact Int.toNat_of_nonneg (by omega)
  · rcases callbacks with same | same <;> simp [Request.context, same]

theorem Keeps.continues {after : Context} (keeps : Keeps request context)
    (continues : context.Continues after) : Keeps request after := by
  have output := continues.output
  have password := continues.password
  obtain ⟨_, _, rfl⟩ := continues.buffers
  exact { keeps with
    outputLength := by rw [output]; exact keeps.outputLength
    passwordLength := password.trans keeps.passwordLength }

theorem Keeps.sound (keeps : Keeps request context) (met : request.MeetsAll) : context.Sound := by
  simp only [Request.MeetsAll, Request.requirements, List.forall_mem_cons, ← keeps.outputLength,
    ← keeps.lanes, ← keeps.threads, ← keeps.memory, ← keeps.passes] at met
  obtain ⟨output, lanes, threads, ⟨exponent, memory⟩, passes, -⟩ := met
  refine ⟨by omega, by omega, by omega, ⟨exponent, ?_⟩, by omega⟩
  exact_mod_cast memory

/-- A request becomes a context where it meets all that is required and a buffer of its
output length can be had; else the first requirement that it misses is reported, and only
behind all of them the buffer. Whatever a context is used for, it keeps what it was built
with: no attribute can be set or deleted, and the two buffers that are written to stay as
long as they were. -/
theorem build_and_use [Machine] (request : Request) :
    (∀ context, request.build = .ok context ↔ request.MeetsAll ∧
      BufferError.ofLength? request.outputLength.toNat = none ∧ context = request.context) ∧
    (∀ error, request.build = .error (.violation error) ↔ request.FirstMissed error) ∧
    (∀ missing, request.build = .error (.buffer missing) ↔ request.MeetsAll ∧
      BufferError.ofLength? request.outputLength.toNat = some missing) ∧
    (∀ context operations, request.build = .ok context →
      let reached := context.after operations
      reached.Sound ∧ Keeps request reached ∧
      ∀ name, reached.perform (.assign name) = (reached, .refused (.assignment name)) ∧
        reached.perform (.delete name) = (reached, .refused (.deletion name))) := by
  refine ⟨fun _ => Request.build_eq_ok_iff, fun _ => Request.build_eq_violation_iff,
    fun _ => Request.build_eq_buffer_iff, fun context operations built => ?_⟩
  obtain ⟨met, _, rfl⟩ := Request.build_eq_ok_iff.mp built
  have kept := Keeps.of_built met
  have keeps := kept.continues (continues_after request.length_output_context operations)
  exact ⟨keeps.sound met, keeps, fun name => ⟨rfl, rfl⟩⟩

attribute [local instance] Machine.workstation

/-- A request with nothing wrong, but for an output buffer that no machine can count. -/
def uncountableRequest : Request :=
  { outputLength := 2 ^ 63, password := Text.utf8 "password", salt := Bytes.zeros 16, passes := 3
    memory := 32, lanes := 4, threads := 4 }

theorem uncountableRequest_unbuilt :
    uncountableRequest.MeetsAll ∧ uncountableRequest.build = .error (.buffer .tooWide) := by
  have met : uncountableRequest.MeetsAll := by
    simp only [Request.MeetsAll, Request.requirements, List.forall_mem_cons]
    exact ⟨by decide, by decide, by decide, ⟨5, by decide⟩, by decide, by decide, nofun⟩
  exact ⟨met, Request.build_eq_buffer_iff.mpr ⟨met, by decide⟩⟩

/-- The test vector after a call whose record is not taken, a call that wipes nothing and
two tries to change it. -/
theorem testVector_kept :
    ∃ context, (Request.testVector .both).build = .ok context ∧
      let reached := context.after [.invoke .d .failing {}, .assign (Text.ofString "lanes"),
        .invoke .i .willing { limit := 1 }, .delete (Text.ofString "outlen")]
      reached.output.length = 32 ∧ reached.password.length = 32 ∧ reached.lanes = 4 ∧
        reached.secret = some (List.replicate 8 3) := by
  obtain ⟨built, _, _, used⟩ := build_and_use (.testVector .both)
  have met : (Request.testVector .both).MeetsAll := by
    simp only [Request.MeetsAll, Request.requirements, List.forall_mem_cons]
    exact ⟨by decide, by decide, by decide, ⟨4, by decide⟩, by decide, by decide, nofun⟩
  have context := (built _).mpr ⟨met, by decide, rfl⟩
  refine ⟨_, context, ?_⟩
  obtain ⟨_, keeps, _⟩ := used _ _ context
  have lanes := keeps.lanes
  have output := keeps.outputLength
  exact ⟨Int.ofNat_inj.mp output, keeps.passwordLength, Int.ofNat_inj.mp lanes, keeps.secret⟩

end Context

end Argon2Workbench
