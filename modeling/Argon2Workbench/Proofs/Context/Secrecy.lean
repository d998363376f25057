import Argon2Workbench.Proofs.Context.Construction
import Argon2Workbench.Proofs.Phc

namespace Argon2Workbench

open Hash.Argon2 (Status Variant)

/-- Requests are turned down for their numbers and callbacks alone. -/
theorem Request.build_password [Machine] (request : Request) (password : Bytes) :
    ({ request with password } : Request).build =
      request.build.map ({ · with password }) := by
  have same : ({ request with password } : Request).violation? = request.violation? := rfl
  simp only [build, same]
  cases request.violation? with
  | some error => rfl
  | none => cases BufferError.ofLength? request.outputLength.toNat <;> rfl

namespace Context

variable {context between other : Context} {variant : Variant} {allocator : Allocator}
  {password : Bytes}

section

variable (short : context.password.length < twoTo 32) (otherShort : password.length < twoTo 32)

include short otherShort

theorem unmarshallable?_password :
    ({ context with password } : Context).unmarshallable? = context.unmarshallable? := by
  have fits : decide (twoTo 32 ≤ context.password.length) = false :=
    decide_eq_false (Nat.not_le.mpr short)
  have otherFits : decide (twoTo 32 ≤ password.length) = false :=
    decide_eq_false (Nat.not_le.mpr otherShort)
  simp only [unmarshallable?, marshalled, List.find?_cons, fits, otherFits]
  rfl

/-- Passwords make no difference to what a call comes to, to its log or to the allocator. -/
theorem invoke_password [Machine] :
    ∃ finished, ({ context with password } : Context).invoke variant false allocator =
      { context.invoke variant false allocator with context := finished } := by
  have status : ({ context with password } : Context).status allocator =
      context.status allocator := rfl
  have raised : ({ context with password } : Context).raisedLog variant =
      context.raisedLog variant := rfl
  simp only [invoke, unmarshallable?_password short otherShort, status, raised]
  cases context.unmarshallable? with
  | some error => exact ⟨_, rfl⟩
  | none =>
      by_cases done : (context.status allocator).2.1 = Status.ok
      · simp only [if_pos done]
        exact ⟨_, rfl⟩
      · simp only [if_neg done]
        exact ⟨_, rfl⟩

end

/-- The contexts differ in their buffers alone, and their outputs are of one length. -/
structure Resembles (context other : Context) : Prop where
  buffers : ∃ written password, other = { context with written, password }
  output : other.output.length = context.output.length

theorem Continues.resembles (continues : context.Continues other) : context.Resembles other :=
  ⟨continues.buffers, continues.output⟩

namespace Resembles

theorem symm (resembles : context.Resembles other) : other.Resembles context := by
  refine ⟨?_, resembles.output.symm⟩
  obtain ⟨_, _, rfl⟩ := resembles.buffers
  exact ⟨_, _, rfl⟩

theorem trans (first : context.Resembles between) (second : between.Resembles other) :
    context.Resembles other := by
  refine ⟨?_, second.output.trans first.output⟩
  obtain ⟨_, _, rfl⟩ := first.buffers
  obtain ⟨_, _, rfl⟩ := second.buffers
  exact ⟨_, _, rfl⟩

theorem withPassword (context : Context) (password : Bytes) :
    context.Resembles { context with password } :=
  ⟨⟨_, _, rfl⟩, rfl⟩

/-- Whatever calls are made on two contexts that resemble each other. -/
theorem invoke [Machine] (resembles : context.Resembles other)
    (filled : context.output.length = context.outputLength) :
    (context.invoke variant false allocator).context.Resembles
      (other.invoke variant false allocator).context := by
  have otherFilled : other.output.length = other.outputLength := by
    rw [resembles.output, filled]
    obtain ⟨_, _, rfl⟩ := resembles.buffers
    rfl
  have left := continues_invoke filled variant false allocator
  have right := continues_invoke otherFilled variant false allocator
  exact (left.resembles.symm.trans resembles).trans right.resembles

theorem ofContext (resembles : context.Resembles other) (variant : Variant) :
    Phc.ofContext other variant = { Phc.ofContext context variant with tag := other.output } := by
  obtain ⟨_, _, rfl⟩ := resembles.buffers
  rfl

theorem length_text (resembles : context.Resembles other) (variant : Variant) :
    (Phc.ofContext other variant).text.length = (Phc.ofContext context variant).text.length := by
  have tag : other.output.base64.length = (Phc.ofContext context variant).tag.base64.length := by
    rw [Bytes.length_base64, Bytes.length_base64, resembles.output]
    rfl
  rw [resembles.ofContext variant, Phc.length_text, Phc.length_text, tag]

end Resembles

/-- The contexts differ in nothing that counts as secret but the lengths of password and
salt. -/
structure AlikeOutside (context other : Context) : Prop where
  secrets : ∃ password salt secret associated,
    other = { context with password, salt, secret, associated }
  password : other.password.length = context.password.length
  salt : other.salt.length = context.salt.length

theorem AlikeOutside.summary (alike : context.AlikeOutside other) :
    other.summary = context.summary := by
  unfold Context.summary
  rw [alike.password, alike.salt]
  obtain ⟨_, _, _, _, rfl⟩ := alike.secrets
  rfl

end Context

end Argon2Workbench
