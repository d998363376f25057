import Argon2Workbench.Proofs.Context.Invocation

namespace Argon2Workbench

open Hash.Argon2 (Status Variant)

namespace Allocator

variable {allocator : Allocator} {length : Nat} {address : Address}

def Admits (allocator : Allocator) (length : Nat) : Prop :=
  allocator.limit = 0 ∨ (length : Int) ≤ allocator.limit

theorem admits_of_unlimited (unlimited : allocator.limit = 0) : allocator.Admits length :=
  .inl unlimited

theorem Admits.passes (admits : allocator.Admits length) :
    ¬ (allocator.limit ≠ 0 ∧ allocator.limit < (length : Int)) := by
  rintro ⟨limited, beyond⟩
  rcases admits with unlimited | within
  · exact limited unlimited
  · omega

theorem allocate_within [Machine] (admits : allocator.Admits length)
    (found : length < Machine.memory) :
    allocator.allocate length address =
      .ok { allocator := allocator.add address length, granted := some length } := by
  have counted := Machine.counted
  have size : twoTo 63 = 9223372036854775808 := by decide
  have wide : ¬ ((twoTo 63 : Int) ≤ (length : Int) ∨ (length : Int) < -(twoTo 63 : Int)) := by
    omega
  have natural : ¬ (length : Int) < 0 := by omega
  have room : ¬ Machine.memory ≤ (length : Int).toNat := by
    rw [Int.toNat_natCast]
    omega
  rw [allocate, if_neg admits.passes, if_neg wide, if_neg natural, if_neg room, Int.toNat_natCast]

/-- Without memory nothing is granted, whatever the limit is. -/
theorem allocate_beyond [Machine] (missing : Machine.memory ≤ length) {allocation : Allocation}
    (answered : allocator.allocate length address = .ok allocation) :
    allocation.granted = none := by
  have natural : ¬ (length : Int) < 0 := by omega
  unfold allocate at answered
  rw [if_neg natural, Int.toNat_natCast, if_pos missing] at answered
  split at answered
  · cases answered
    rfl
  · split at answered
    · contradiction
    · cases answered
      rfl

/-- What a request can come to: a block, a refusal that changes nothing, or no answer. -/
theorem allocate_cases [Machine] (allocator : Allocator) (length : Int) (address : Address) :
    (∃ granted : Nat, (granted : Int) = length ∧ allocator.Admits granted ∧
      granted < Machine.memory ∧
      allocator.allocate length address =
        .ok { allocator := allocator.add address granted, granted := some granted }) ∨
    (∃ log, allocator.allocate length address = .ok { allocator, granted := none, log }) ∨
    (∃ error, allocator.allocate length address = .error error) := by
  by_cases beyond : allocator.limit ≠ 0 ∧ allocator.limit < length
  · exact .inr (.inl ⟨_, by rw [allocate, if_pos beyond]⟩)
  by_cases wide : (twoTo 63 : Int) ≤ length ∨ length < -(twoTo 63 : Int)
  · exact .inr (.inr ⟨_, by rw [allocate, if_neg beyond, if_pos wide]⟩)
  by_cases negative : length < 0
  · exact .inr (.inr ⟨_, by rw [allocate, if_neg beyond, if_neg wide, if_pos negative]⟩)
  obtain ⟨granted, rfl⟩ := Int.eq_ofNat_of_zero_le (Int.not_lt.mp negative)
  by_cases missing : Machine.memory ≤ (granted : Int).toNat
  · exact .inr (.inl ⟨_, by
      rw [allocate, if_neg beyond, if_neg wide, if_neg negative, if_pos missing]⟩)
  · have admits : allocator.Admits granted := by
      rw [Admits]
      omega
    have found : granted < Machine.memory := by
      rw [Int.toNat_natCast] at missing
      exact Nat.lt_of_not_le missing
    exact .inl ⟨granted, rfl, admits, found, allocate_within admits found⟩

theorem limit_allocate [Machine] {length : Int} {allocation : Allocation}
    (answered : allocator.allocate length address = .ok allocation) :
    allocation.allocator.limit = allocator.limit := by
  unfold allocate at answered
  split at answered
  · cases answered
    rfl
  · split at answered
    · contradiction
    · split at answered
      · contradiction
      · split at answered <;> cases answered <;> rfl

theorem limit_free (allocator : Allocator) (block : Option Address) (length : Int) :
    (allocator.free block length).1.limit = allocator.limit := by
  cases block with
  | none => rfl
  | some address =>
      simp only [free]
      split <;> rfl

end Allocator

namespace Context

variable {context : Context} {variant : Variant} {recording : Bool} {allocator : Allocator}

/-- Nothing that the context needs is turned down by its allocator, if it has one. -/
def Supplied (context : Context) (allocator : Allocator) : Prop :=
  context.customAllocator = true → allocator.Admits context.inputs.workingBytes

theorem supplied_of_unlimited (unlimited : allocator.limit = 0) : context.Supplied allocator :=
  fun _ => Allocator.admits_of_unlimited unlimited

variable [Machine]

/-- The working area is there as soon as there is memory for it. -/
theorem reserve_supplied (supplied : context.Supplied allocator) :
    (context.reserve allocator).2.1 = decide (context.inputs.workingBytes < Machine.memory) := by
  cases custom : context.customAllocator with
  | false => simp [reserve, custom]
  | true =>
      by_cases found : context.inputs.workingBytes < Machine.memory
      · simp [reserve, custom, Allocator.allocate_within (supplied custom) found, found]
      · simp only [reserve, custom, if_true, found, decide_false]
        cases answered : allocator.allocate context.inputs.workingBytes
            allocator.freshAddress with
        | error error => rfl
        | ok allocation =>
            simp [Allocator.allocate_beyond (Nat.le_of_not_lt found) answered]

theorem limit_reserve (context : Context) (allocator : Allocator) :
    (context.reserve allocator).1.limit = allocator.limit := by
  cases custom : context.customAllocator with
  | false => simp [reserve, custom]
  | true =>
      simp only [reserve, custom, if_true]
      cases answered : allocator.allocate context.inputs.workingBytes allocator.freshAddress with
      | error error => rfl
      | ok allocation =>
          cases granted : allocation.granted with
          | none =>
              simp only [granted]
              exact Allocator.limit_allocate answered
          | some length =>
              simp only [granted, Allocator.limit_free]
              exact Allocator.limit_allocate answered

theorem status_supplied (supplied : context.Supplied allocator) :
    (context.status allocator).2.1 = context.inputs.outcome := by
  cases refusal : context.inputs.refusal? with
  | some refused => simp [status, Hash.Argon2.Inputs.outcome, refusal]
  | none =>
      simp [status, Hash.Argon2.Inputs.outcome, refusal, reserve_supplied supplied]

theorem limit_status (context : Context) (allocator : Allocator) :
    (context.status allocator).1.limit = allocator.limit := by
  cases refusal : context.inputs.refusal? with
  | some refused => simp [status, refusal]
  | none => simp [status, refusal, limit_reserve]

theorem limit_invoke (context : Context) (variant : Variant) (recording : Bool)
    (allocator : Allocator) :
    (context.invoke variant recording allocator).allocator.limit = allocator.limit := by
  have kept := limit_status context allocator
  cases fits : context.unmarshallable? with
  | some error => simp [invoke, fits]
  | none =>
      simp only [invoke, fits]
      split
      · split
        · split <;> exact kept
        · exact kept
      · exact kept

end Context

end Argon2Workbench
