import Argon2Workbench.Proofs.Context.Reservation
import Argon2Workbench.Proofs.Scenario.Frame
import Mathlib.Algebra.GroupWithZero.Nat

namespace Argon2Workbench.Scenario

open Hash.Argon2 (Status Variant)

/-- A call whose record, if it has one, goes to the end of the file at `path`. -/
structure Attempt where
  context : Context
  variant : Variant
  recording : Bool
  path : Text

def Attempt.charge [Machine] (attempt : Attempt) (limit : Int) : Nat :=
  if attempt.context.Granted limit then attempt.context.inputs.workingBytes else 0

def Attempt.invoked [Machine] (attempt : Attempt) (allocator : Allocator) : Invocation :=
  attempt.context.invoke attempt.variant attempt.recording allocator

def attempt [Machine] (scenario : Scenario) (attempt : Attempt) :
    Except Fault (Context × Status) × Scenario :=
  scenario.keep attempt.context attempt.variant attempt.recording attempt.path

def attempted [Machine] (scenario : Scenario) (attempts : List Attempt) : Scenario :=
  attempts.foldl (fun before next => (before.attempt next).2) scenario

variable {scenario : Scenario} {next : Attempt} {attempts : List Attempt}

theorem allocator_attempt [Machine] (scenario : Scenario) (next : Attempt) :
    (scenario.attempt next).2.allocator = (next.invoked scenario.allocator).allocator := by
  obtain ⟨log, files, left⟩ :=
    scenario.keep_left next.context next.variant next.recording next.path
  rw [attempt, left]
  rfl

theorem charged_attempt [Machine] (own : next.context.customAllocator = true) :
    (scenario.attempt next).2.allocator =
      scenario.allocator.charged (next.charge scenario.allocator.limit) := by
  rw [allocator_attempt, Attempt.charge]
  rcases Context.charged_or_idle own next.variant next.recording scenario.allocator with
    ⟨granted, -, charged⟩ | ⟨ungranted, -, idle⟩
  · rw [if_pos granted]
    exact charged
  · rw [if_neg ungranted]
    exact idle

theorem charged_attempted [Machine] (scenario : Scenario)
    (own : ∀ next ∈ attempts, next.context.customAllocator = true) :
    (scenario.attempted attempts).allocator =
      scenario.allocator.charged
        (attempts.map (·.charge scenario.allocator.limit)).sum := by
  induction attempts generalizing scenario with
  | nil => rfl
  | cons first rest ih =>
      -- No call changes the limit, so the later ones are charged by the one at the start.
      have step : (scenario.attempt first).2.allocator = _ := charged_attempt (own first (by simp))
      have later := ih (scenario.attempt first).2 fun next member =>
        own next (List.mem_cons_of_mem first member)
      rw [attempted, List.foldl_cons, ← attempted, later, step]
      simp [Allocator.charged, Nat.add_assoc]

section

variable [Machine] {invocation : Invocation}
    (invoked : next.invoked scenario.allocator = invocation)

include invoked

/-- A success is charged for, and would have been one without the allocator. -/
theorem attempt_granted (own : next.context.customAllocator = true)
    (done : invocation.result = .ok Status.ok) :
    (scenario.attempt next).2.allocator =
        scenario.allocator.charged next.context.inputs.workingBytes ∧
      (scenario.Accepts next.context next.variant next.recording next.path →
        (scenario.attempt next).1 = .ok (invocation.context, Status.ok)) ∧
      ∀ recording other,
        let onHeap := next.context.onHeap.invoke next.variant recording other
        onHeap.result = .ok Status.ok ∧ onHeap.context.output = invocation.context.output := by
  subst invoked
  rcases Context.charged_or_idle own next.variant next.recording scenario.allocator with
    ⟨granted, -, charged⟩ | ⟨-, failed, -⟩
  · obtain ⟨-, -, left⟩ := Context.invoke_succeeded done
    refine ⟨(allocator_attempt scenario next).trans charged, fun accepts => ?_,
      fun recording other => ?_⟩
    · rw [attempt, (keep_succeeded done accepts).1, ← Context.withTag_wiped, ← left]
      rfl
    · have plain := Context.onHeap_granted granted next.variant recording other
      refine ⟨plain, ?_⟩
      rw [Context.output_succeeded plain]
      exact (Context.output_succeeded done).symm
  · exact absurd done failed

theorem attempt_idle (own : next.context.customAllocator = true)
    (failed : invocation.result ≠ .ok Status.ok) :
    (scenario.attempt next).2.allocator = scenario.allocator ∧
      (scenario.attempt next).2.files = scenario.files ∧ invocation.context = next.context ∧
      ∀ finished, (scenario.attempt next).1 ≠ .ok (finished, Status.ok) := by
  subst invoked
  rcases Context.charged_or_idle own next.variant next.recording scenario.allocator with
    ⟨-, done, -⟩ | ⟨-, -, idle⟩
  · exact absurd done failed
  · refine ⟨(allocator_attempt scenario next).trans idle, (keep_failed next.path failed).2,
      (Context.invoke_failed failed).1, fun finished ran => ?_⟩
    exact failed (keep_ok ran).1

/-- A call that is past its checks fails for want of memory or for nothing. -/
theorem attempt_denied (own : next.context.customAllocator = true)
    (fits : next.context.unmarshallable? = none) (accepted : next.context.inputs.refusal? = none) :
    (invocation.result = .ok Status.ok ↔
      scenario.allocator.Grants next.context.inputs.workingBytes) ∧
    (¬ scenario.allocator.Grants next.context.inputs.workingBytes →
      (scenario.attempt next).1 = .ok (next.context, Status.allocationFailed)) := by
  subst invoked
  constructor
  · rcases Context.charged_or_idle own next.variant next.recording scenario.allocator with
      ⟨granted, done, -⟩ | ⟨ungranted, failed, -⟩
    · exact iff_of_true done granted.2.2
    · exact iff_of_false failed fun grants => ungranted ⟨fits, accepted, grants⟩
  · intro ungranted
    obtain ⟨log, denied⟩ :=
      Context.invoke_denied own fits accepted ungranted next.variant next.recording
    have refused : (next.context.invoke next.variant next.recording scenario.allocator).result =
        .ok Status.allocationFailed := by
      rw [denied]
    have failed : Status.allocationFailed ≠ Status.ok := by decide
    rw [attempt, (keep_failed next.path (by simpa [refused] using failed)).1, refused]

end

/-- However many calls share an allocator, and however they end, the blocks that are out stay
as they are. The total has grown by the working areas of those that came to success, which are
the same with memory of another kind. The others leave everything to the next as they found
it, and one whose inputs are turned down does not even look at the allocator. -/
theorem attempts_settle [Machine] (scenario : Scenario) (attempts : List Attempt)
    (own : ∀ next ∈ attempts, next.context.customAllocator = true) :
    let limit := scenario.allocator.limit
    (scenario.attempted attempts).allocator =
      { scenario.allocator with
        total := scenario.allocator.total + (attempts.map (·.charge limit)).sum } ∧
    ∀ before next later, attempts = before ++ next :: later →
      let now := scenario.attempted before
      let ran := now.attempt next
      let invocation := next.invoked now.allocator
      let lanes := next.context.lanes
      let bytes := 1024 * (4 * lanes * (next.context.effectiveMemory / (4 * lanes)))
      now.allocator.limit = limit ∧
      ran.2.allocator.blocks = now.allocator.blocks ∧
      (invocation.result = .ok Status.ok →
        ran.2.allocator.total = now.allocator.total + bytes ∧
        (now.Accepts next.context next.variant next.recording next.path →
          ran.1 = .ok (invocation.context, Status.ok)) ∧
        ∀ recording other,
          let onHeap := next.context.onHeap.invoke next.variant recording other
          onHeap.result = .ok Status.ok ∧
            onHeap.context.output = invocation.context.output) ∧
      (invocation.result ≠ .ok Status.ok →
        ran.2.allocator = now.allocator ∧ ran.2.files = now.files ∧
          invocation.context = next.context ∧ ∀ finished, ran.1 ≠ .ok (finished, Status.ok)) ∧
      (next.context.unmarshallable? = none → next.context.inputs.refusal? = none →
        (invocation.result = .ok Status.ok ↔
          (limit = 0 ∨ (bytes : Int) ≤ limit) ∧ bytes < Machine.memory) ∧
        (limit ≠ 0 → limit < bytes →
          ran.1 = .ok (next.context, -22) ∧ ran.2.files = now.files ∧
            ran.2.allocator = now.allocator)) ∧
      ∀ refused, next.context.inputs.refusal? = some refused →
        ∀ other, next.invoked other = { invocation with allocator := other } := by
  intro limit
  have account := charged_attempted scenario own
  refine ⟨account, fun before next later split => ?_⟩
  intro now ran invocation lanes bytes
  have asked : next.context.customAllocator = true := own next (by simp [split])
  have kept : now.allocator.limit = limit := by
    have earlier : ∀ other ∈ before, other.context.customAllocator = true :=
      fun other member => own other (by simp [split, member])
    rw [charged_attempted scenario earlier]
    rfl
  have denied := attempt_denied (rfl : next.invoked now.allocator = invocation) asked
  refine ⟨kept, ?_, fun done => ?_, attempt_idle rfl asked, fun fits accepted => ⟨?_, ?_⟩,
    fun refused refusal => Context.invoke_validated refusal⟩
  · rw [charged_attempt asked]
    rfl
  · obtain ⟨charged, rest⟩ := attempt_granted rfl asked done
    exact ⟨congrArg Allocator.total charged, rest⟩
  · rw [← kept]
    exact (denied fits accepted).1
  · intro limited beyond
    have ungranted : ¬ now.allocator.Grants next.context.inputs.workingBytes := by
      rintro ⟨unlimited | within, -⟩
      · exact limited (kept ▸ unlimited)
      · exact Int.not_lt.mpr within (kept ▸ beyond)
    have failed : invocation.result ≠ .ok Status.ok :=
      fun done => ungranted ((denied fits accepted).1.mp done)
    obtain ⟨idle, unwritten, -⟩ := attempt_idle rfl asked failed
    exact ⟨(denied fits accepted).2 ungranted, unwritten, idle⟩

attribute [local instance] Machine.workstation

/-- A limit between the areas for four lanes and for eight, and a block that is out already. -/
def limitedScenario : Scenario :=
  { allocator := { limit := 40000, blocks := [(7, 10)] } }

def ownVector : Context :=
  (Request.testVector .both).context

def limitedAttempts : List Attempt :=
  [⟨ownVector, .d, false, []⟩, ⟨{ ownVector with lanes := 8 }, .i, false, []⟩,
    ⟨{ ownVector with passes := 0 }, .d, true, "kat-argon2.log"⟩,
    ⟨ownVector, .i, true, "kat-argon2.log"⟩]

theorem limitedAttempts_settle :
    (limitedScenario.attempted limitedAttempts).allocator =
      { limit := 40000, blocks := [(7, 10)], total := 65536 } ∧
    ∃ scenario : Scenario, scenario = limitedScenario.attempted (limitedAttempts.take 1) ∧
      scenario.allocator.total = 32768 ∧
      ∃ after, scenario.attempt ⟨{ ownVector with lanes := 8 }, .i, false, []⟩ =
          (.ok ({ ownVector with lanes := 8 }, -22), after) ∧
        after.allocator = scenario.allocator := by
  have own : ∀ next ∈ limitedAttempts, next.context.customAllocator = true := by decide
  obtain ⟨account, each⟩ := attempts_settle limitedScenario limitedAttempts own
  obtain ⟨-, -, granted, -⟩ := each [] _ _ rfl
  obtain ⟨-, -, -, -, denied, -⟩ := each [_] _ _ rfl
  refine ⟨account, _, rfl, ?_, ?_⟩
  · exact (granted rfl).1
  · obtain ⟨ended, -, idle⟩ := (denied rfl rfl).2 (by decide) (by decide)
    exact ⟨_, Prod.ext ended rfl, idle⟩

end Argon2Workbench.Scenario
