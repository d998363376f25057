import Argon2Workbench.Proofs.Context.Presets
import Mathlib.Tactic.SplitIfs

namespace Argon2Workbench

open Hash.Argon2 (Status Variant)

namespace Request

variable {request : Request} {context : Context}

/-- What every request meets that is not turned down. -/
structure Accepted (request : Request) : Prop where
  output : 0 < request.outputLength
  lanes : 1 ≤ request.lanes ∧ request.lanes ≤ maxLanes
  threads : 1 ≤ request.threads ∧ request.threads ≤ maxThreads
  memory : isPowerOfTwo request.memory = true
  passes : 0 ≤ request.passes ∧ request.passes ≤ maxPasses
  paired : request.callbacks ≠ .allocateOnly ∧ request.callbacks ≠ .freeOnly

theorem accepted_of_violation? (fits : request.violation? = none) : request.Accepted := by
  unfold violation? at fits
  split_ifs at fits with output lanes threads memory passes paired
  simp only [not_or] at passes paired
  refine ⟨by omega, lanes, threads, by simpa using memory, ?_, paired⟩
  omega

theorem violation?_of_build [Machine] (built : request.build = .ok context) :
    request.violation? = none ∧ context = request.context := by
  cases violation : request.violation? with
  | some error => simp [build, violation] at built
  | none =>
      cases buffer : BufferError.ofLength? request.outputLength.toNat with
      | some error => simp [build, violation, buffer] at built
      | none =>
          simp only [build, violation, buffer, Except.ok.injEq] at built
          exact ⟨rfl, built.symm⟩

theorem length_output_context (request : Request) :
    request.context.output.length = request.context.outputLength :=
  List.length_replicate

end Request

namespace Context

variable {context : Context}

def fresh (context : Context) : Context :=
  { context with written := [] }

/-- The context came of a request. Since then its output buffer may have been written to. -/
def Constructible [Machine] (context : Context) : Prop :=
  ∃ request : Request, request.build = .ok context.fresh

structure Bounded (context : Context) : Prop where
  lanes : 1 ≤ context.lanes ∧ context.lanes ≤ maxLanes
  threads : 1 ≤ context.threads ∧ context.threads ≤ maxThreads
  passes : context.passes ≤ maxPasses

theorem Constructible.bounded [Machine]
    (constructible : context.Constructible) : context.Bounded := by
  obtain ⟨request, built⟩ := constructible
  obtain ⟨fits, same⟩ := Request.violation?_of_build built
  have accepted := Request.accepted_of_violation? fits
  have lanes : context.lanes = request.lanes.toNat := congrArg Context.lanes same
  have threads : context.threads = request.threads.toNat := congrArg Context.threads same
  have passes : context.passes = request.passes.toNat := congrArg Context.passes same
  have lanesFit := accepted.lanes
  have threadsFit := accepted.threads
  have passesFit := accepted.passes
  refine ⟨?_, ?_, ?_⟩ <;> omega

theorem Constructible.threads_lt [Machine] (constructible : context.Constructible) :
    context.threads < twoTo 32 := by
  have within := constructible.bounded.threads
  have sizes : maxThreads < twoTo 32 := by decide
  omega

/-- Only the buffers differ, and no buffer in length. -/
structure Continues (before after : Context) : Prop where
  buffers : ∃ written password, after = { before with written, password }
  password : after.password.length = before.password.length
  output : after.output.length = before.output.length

namespace Continues

variable {before between after : Context}

theorem refl (context : Context) : context.Continues context :=
  ⟨⟨_, _, rfl⟩, rfl, rfl⟩

theorem trans (first : before.Continues between) (second : between.Continues after) :
    before.Continues after := by
  refine ⟨?_, second.password.trans first.password, second.output.trans first.output⟩
  obtain ⟨_, _, rfl⟩ := first.buffers
  obtain ⟨_, _, rfl⟩ := second.buffers
  exact ⟨_, _, rfl⟩

theorem marshalled (continues : before.Continues after) :
    after.marshalled = before.marshalled := by
  have length := continues.password
  obtain ⟨written, password, rfl⟩ := continues.buffers
  simp only [Context.marshalled, length]
  rfl

theorem unmarshallable? (continues : before.Continues after) :
    after.unmarshallable? = before.unmarshallable? := by
  rw [Context.unmarshallable?, continues.marshalled, Context.unmarshallable?]

theorem refusal? (continues : before.Continues after) :
    after.inputs.refusal? = before.inputs.refusal? := by
  obtain ⟨written, password, rfl⟩ := continues.buffers
  rfl

end Continues

theorem length_output_withTag (context : Context) (variant : Variant) :
    (context.withTag variant).output.length = context.outputLength := by
  rw [output_withTag, Hash.Argon2.length_tag]
  rfl

section

variable (filled : context.output.length = context.outputLength)

include filled

theorem continues_withTag (variant : Variant) :
    context.Continues (context.withTag variant).wiped := by
  have output : (context.withTag variant).wiped.output.length = context.output.length := by
    rw [output_wiped, length_output_withTag, filled]
  refine ⟨?_, ?_, output⟩
  · unfold wiped
    split <;> exact ⟨_, _, rfl⟩
  · unfold wiped
    split
    · exact List.length_replicate
    · rfl

theorem continues_invoke [Machine] (variant : Variant) (recording : Bool) (allocator : Allocator) :
    context.Continues (context.invoke variant recording allocator).context := by
  by_cases succeeded : (context.invoke variant recording allocator).result = .ok Status.ok
  · rw [(invoke_succeeded succeeded).2.2]
    exact continues_withTag filled variant
  · rw [(invoke_failed succeeded).1]
    exact .refl context

end

inductive Reached [Machine] (context : Context) : Context → Prop where
  | uncalled : Reached context context
  | called {between : Context} (earlier : Reached context between) (variant : Variant)
      (recording : Bool) (allocator : Allocator) :
      Reached context (between.invoke variant recording allocator).context

theorem Reached.continues [Machine] {after : Context} (reached : context.Reached after)
    (filled : context.output.length = context.outputLength) : context.Continues after := by
  induction reached with
  | uncalled => exact .refl context
  | called earlier variant recording allocator ih =>
      have length : _ = context.output.length := ih.output
      obtain ⟨_, _, rfl⟩ := ih.buffers
      exact ih.trans (continues_invoke (length.trans filled) variant recording allocator)

end Context

end Argon2Workbench
