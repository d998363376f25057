import Argon2Workbench.Proofs.Context.Sequence

/-! Calls whose working area comes from an allocator of the caller's own.

The area is taken and given back within the call, so no block is out afterwards that was not
out before. Only the total shows that there was one.
-/

namespace Argon2Workbench

open Hash.Argon2 (Inputs Status Variant)

namespace Allocator

variable {allocator : Allocator} {length : Nat}

theorem lt_freshAddress {block : Address × Nat} (member : block ∈ allocator.blocks) :
    block.1 < allocator.freshAddress := by
  rw [freshAddress]
  generalize allocator.blocks = blocks at member
  induction blocks with
  | nil => contradiction
  | cons first rest ih =>
      simp only [List.foldr_cons]
      rcases List.mem_cons.mp member with rfl | later
      · exact Nat.lt_of_lt_of_le (Nat.lt_succ_self _) (Nat.le_max_left _ _)
      · exact Nat.lt_of_lt_of_le (ih later) (Nat.le_max_right _ _)

/-- The allocator after a block of the length has come and gone. -/
def charged (allocator : Allocator) (length : Nat) : Allocator :=
  { allocator with total := allocator.total + length }

theorem free_add (allocator : Allocator) (length : Nat) (given : Int) :
    (allocator.add allocator.freshAddress length).free (some allocator.freshAddress) given =
      (allocator.charged length, []) := by
  have out : (allocator.add allocator.freshAddress length).blocks.any
      (·.1 == allocator.freshAddress) = true := by
    simp [add]
  -- All other blocks are below the fresh address, so none of them goes with it.
  have kept : allocator.blocks.filter (·.1 != allocator.freshAddress) = allocator.blocks := by
    rw [List.filter_eq_self]
    intro block member
    simpa using Nat.ne_of_lt (lt_freshAddress member)
  rw [free, if_pos out]
  simp [add, charged, List.filter_append, kept]

def Grants [Machine] (allocator : Allocator) (length : Nat) : Prop :=
  allocator.Admits length ∧ length < Machine.memory

theorem allocate_ungranted [Machine] (ungranted : ¬ allocator.Grants length) (address : Address) :
    (∃ log, allocator.allocate length address = .ok { allocator, granted := none, log }) ∨
      ∃ error, allocator.allocate length address = .error error := by
  rcases allocate_cases allocator length address with
    ⟨granted, same, admits, found, -⟩ | refused | failed
  · obtain rfl := Int.ofNat_inj.mp same
    exact absurd ⟨admits, found⟩ ungranted
  · exact .inl refused
  · exact .inr failed

end Allocator

namespace Context

variable {context : Context} {variant : Variant} {recording : Bool} {allocator : Allocator}

theorem status_validated [Machine] {refused : Status}
    (refusal : context.inputs.refusal? = some refused) :
    context.status allocator = (allocator, refused, []) := by
  simp only [status, refusal]

theorem refusal_ne_ok {refused : Status} (refusal : context.inputs.refusal? = some refused) :
    refused ≠ Status.ok := by
  unfold Inputs.refusal? at refusal
  split at refusal
  · cases refusal
    decide
  · split at refusal
    · cases refusal
      decide
    · split at refusal
      · cases refusal
        decide
      · contradiction

variable [Machine]

section

variable (own : context.customAllocator = true) (accepted : context.inputs.refusal? = none)

include own accepted

theorem status_granted (grants : allocator.Grants context.inputs.workingBytes) :
    context.status allocator =
      (allocator.charged context.inputs.workingBytes, Status.ok, []) := by
  have taken : context.reserve allocator =
      (allocator.charged context.inputs.workingBytes, true, []) := by
    simp [reserve, own, Allocator.allocate_within grants.1 grants.2, Allocator.free_add]
  simp [status, accepted, taken]

theorem status_ungranted (ungranted : ¬ allocator.Grants context.inputs.workingBytes) :
    ∃ log, context.status allocator = (allocator, Status.allocationFailed, log) := by
  obtain ⟨log, refused⟩ : ∃ log, context.reserve allocator = (allocator, false, log) := by
    rcases Allocator.allocate_ungranted ungranted allocator.freshAddress with
      ⟨log, refused⟩ | ⟨error, failed⟩
    · exact ⟨log, by simp [reserve, own, refused]⟩
    · exact ⟨[], by simp [reserve, own, failed]⟩
  exact ⟨log, by simp [status, accepted, refused]⟩

end

theorem allocator_of_fits (fits : context.unmarshallable? = none) :
    (context.invoke variant recording allocator).allocator = (context.status allocator).1 := by
  obtain ⟨record, recorded⟩ := (context.withTag variant).record_ok fits variant
  simp only [invoke, fits, recorded]
  split
  · split <;> rfl
  · rfl

/-- The call can be made, its inputs are accepted, and its working area is within the limit
and in memory. -/
def Granted (context : Context) (limit : Int) : Prop :=
  context.unmarshallable? = none ∧ context.inputs.refusal? = none ∧
    (limit = 0 ∨ (context.inputs.workingBytes : Int) ≤ limit) ∧
    context.inputs.workingBytes < Machine.memory

instance (context : Context) (limit : Int) : Decidable (context.Granted limit) :=
  inferInstanceAs (Decidable (_ ∧ _))

/-- A call either succeeds and is charged for, or comes to something else for nothing. Which
of the two it is the limit alone decides, whatever blocks are out. -/
theorem charged_or_idle (own : context.customAllocator = true) (variant : Variant)
    (recording : Bool) (allocator : Allocator) :
    let invocation := context.invoke variant recording allocator
    (context.Granted allocator.limit ∧ invocation.result = .ok Status.ok ∧
      invocation.allocator = allocator.charged context.inputs.workingBytes) ∨
    (¬ context.Granted allocator.limit ∧ invocation.result ≠ .ok Status.ok ∧
      invocation.allocator = allocator) := by
  intro invocation
  cases fits : context.unmarshallable? with
  | some error =>
      right
      simp [invocation, Granted, invoke, fits]
  | none =>
      have result : invocation.result = .ok (context.status allocator).2.1 := result_of_fits fits
      have left : invocation.allocator = (context.status allocator).1 := allocator_of_fits fits
      rw [result, left]
      cases refusal : context.inputs.refusal? with
      | some refused =>
          right
          simp [Granted, refusal, status_validated refusal, refusal_ne_ok refusal]
      | none =>
          by_cases grants : allocator.Grants context.inputs.workingBytes
          · left
            rw [status_granted own refusal grants]
            exact ⟨⟨fits, refusal, grants⟩, rfl, rfl⟩
          · right
            obtain ⟨log, denied⟩ := status_ungranted own refusal grants
            have failed : Status.allocationFailed ≠ Status.ok := by decide
            rw [denied]
            exact ⟨fun granted => grants granted.2.2, by simpa using failed, rfl⟩

theorem invoke_denied (own : context.customAllocator = true)
    (fits : context.unmarshallable? = none) (accepted : context.inputs.refusal? = none)
    (ungranted : ¬ allocator.Grants context.inputs.workingBytes) (variant : Variant)
    (recording : Bool) :
    ∃ log, context.invoke variant recording allocator =
      { result := .ok Status.allocationFailed, context, allocator, log } := by
  obtain ⟨log, denied⟩ := status_ungranted own accepted ungranted
  exact ⟨_, invoke_refused fits denied (by decide)⟩

/-- A call whose inputs are turned down does not look at the allocator. -/
theorem invoke_validated {refused : Status} (refusal : context.inputs.refusal? = some refused)
    (other : Allocator) :
    context.invoke variant recording other =
      { context.invoke variant recording allocator with allocator := other } := by
  cases fits : context.unmarshallable? with
  | some error => simp [invoke, fits]
  | none =>
      have failed := refusal_ne_ok refusal
      rw [invoke_refused fits (status_validated refusal) failed,
        invoke_refused fits (status_validated refusal) failed]

def onHeap (context : Context) : Context :=
  { context with customAllocator := false }

theorem onHeap_granted {limit : Int} (granted : context.Granted limit) (variant : Variant)
    (recording : Bool) (other : Allocator) :
    (context.onHeap.invoke variant recording other).result = .ok Status.ok := by
  obtain ⟨fits, accepted, -, found⟩ := granted
  have same : context.onHeap.unmarshallable? = none := fits
  have outcome : context.onHeap.inputs.outcome = Status.ok := by
    have plain : context.onHeap.inputs = context.inputs := rfl
    simp [plain, Inputs.outcome, accepted, found]
  rw [result_of_fits same, status_default rfl, outcome]

end Context

end Argon2Workbench
