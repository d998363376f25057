import Argon2Workbench.Proofs.Context.Independence

/-! Calls in a row on one context.

A call hands on nothing but the contents of two buffers. What it leaves in the output
buffer no later call looks at, so only a wiped password is ever noticed.
-/

namespace Argon2Workbench

open Hash.Argon2 (Status Variant)

namespace Context

variable {context : Context} {allocator freshAllocator : Allocator} {call : Call}

def Wipes (context : Context) : Prop :=
  context.clearPassword = true ∧ context.wipeable = true

def zeroed (context : Context) : Context :=
  { context.fresh with password := Bytes.zeros context.password.length }

theorem wiped_of_not_wipes (keeping : ¬ context.Wipes) : context.wiped = context := by
  have off : ¬ (context.clearPassword && context.wipeable) = true := by
    simpa [Wipes] using keeping
  rw [wiped, if_neg off]

theorem fresh_wiped_of_wipes (wipes : context.Wipes) : context.wiped.fresh = context.zeroed := by
  have on : (context.clearPassword && context.wipeable) = true := by
    simp [wipes.1, wipes.2]
  rw [wiped, if_pos on]
  rfl

theorem wiped_wiped (context : Context) : context.wiped.wiped = context.wiped := by
  by_cases wipes : context.Wipes
  · simp [wiped, wipes.1, wipes.2, Bytes.zeros]
  · rw [wiped_of_not_wipes wipes, wiped_of_not_wipes wipes]

def observed [Machine] (context : Context) (allocator : Allocator) (call : Call) :
    Observation × Option String :=
  (context.observe allocator call,
   (context.invoke call.variant call.recording allocator).record)

/-- Every call is made on the context and the allocator that the one before it has left. -/
def run [Machine] (context : Context) (allocator : Allocator) : List Call → List
    (Observation × Option String)
  | [] => []
  | call :: rest =>
      let invocation := context.invoke call.variant call.recording allocator
      context.observed allocator call :: invocation.context.run invocation.allocator rest

theorem observed_fresh [Machine] (unhindered : context.Unhindered allocator)
    (anew : context.fresh.Unhindered freshAllocator) (call : Call) :
    context.observed allocator call = context.fresh.observed freshAllocator call := by
  have inputs : context.inputs = context.fresh.inputs := rfl
  have seen : context.observe allocator call = context.fresh.observe freshAllocator call :=
    observe_congr inputs unhindered anew _ _ _ _
  have result := unhindered.result call.variant call.recording
  have freshResult := anew.result call.variant call.recording
  have same : context.fresh.inputs.answer = context.inputs.answer := rfl
  rw [same] at freshResult
  by_cases done : context.inputs.answer = .ok Status.ok
  · rw [done] at result freshResult
    rw [observed, observed, seen, record_succeeded result, record_succeeded freshResult]
    rfl
  · have failed := (invoke_failed (result ▸ done)).2
    have freshFailed := (invoke_failed (freshResult ▸ done)).2
    rw [observed, observed, seen, failed, freshFailed]

/-- What is left of a context behind a call that has succeeded. -/
theorem fresh_withTag_wiped (context : Context) (variant : Variant) :
    (context.withTag variant).wiped.fresh = context.wiped.fresh := by
  by_cases wipes : context.Wipes
  · have same : (context.withTag variant).Wipes := wipes
    rw [fresh_wiped_of_wipes wipes, fresh_wiped_of_wipes same]
    rfl
  · have same : ¬ (context.withTag variant).Wipes := wipes
    rw [wiped_of_not_wipes wipes, wiped_of_not_wipes same]
    rfl

theorem Unhindered.of_fresh {other : Context} {otherAllocator : Allocator}
    (unhindered : context.Unhindered allocator)
    (same : other.fresh = context.fresh ∨ other.fresh = context.zeroed)
    (limit : otherAllocator.limit = allocator.limit) : other.Unhindered otherAllocator := by
  have threads : other.fresh.threads = context.threads := by
    rcases same with same | same <;> rw [same] <;> rfl
  have custom : other.fresh.customAllocator = context.customAllocator := by
    rcases same with same | same <;> rw [same] <;> rfl
  have working : other.fresh.inputs.workingBytes = context.inputs.workingBytes := by
    rcases same with same | same <;> rw [same] <;> rfl
  refine ⟨threads ▸ unhindered.threads, fun own => ?_⟩
  have admits := unhindered.supplied (custom ▸ own)
  rw [← working] at admits
  rw [Allocator.Admits, limit]
  exact admits

/-- A call leaves a context that is fresh but for its output buffer, or one that is wiped. -/
theorem fresh_invoke [Machine] (context : Context) (allocator : Allocator) (call : Call) :
    let after := (context.invoke call.variant call.recording allocator).context
    after.fresh = context.fresh ∨ after.fresh = context.zeroed := by
  intro after
  by_cases succeeded : (context.invoke call.variant call.recording allocator).result = .ok Status.ok
  · obtain ⟨-, -, finished⟩ := invoke_succeeded succeeded
    have left : after.fresh = context.wiped.fresh := by
      rw [← fresh_withTag_wiped context call.variant, ← finished]
    by_cases wipes : context.Wipes
    · exact .inr (left.trans (fresh_wiped_of_wipes wipes))
    · exact .inl (left.trans (congrArg fresh (wiped_of_not_wipes wipes)))
  · exact .inl (congrArg fresh (invoke_failed succeeded).1)

theorem Unhindered.invoke [Machine] (unhindered : context.Unhindered allocator) (call : Call) :
    let invocation := context.invoke call.variant call.recording allocator
    invocation.context.Unhindered invocation.allocator :=
  unhindered.of_fresh (fresh_invoke context allocator call) (limit_invoke _ _ _ _)

/-- As long as there is nothing to wipe, every call is the first. -/
theorem run_keeping [Machine] (calls : List Call) {context : Context} {allocator : Allocator}
    (keeping : context.wiped = context) (unhindered : context.Unhindered allocator)
    (anew : context.fresh.Unhindered freshAllocator) :
    context.run allocator calls = calls.map (context.fresh.observed freshAllocator) := by
  induction calls generalizing context allocator with
  | nil => rfl
  | cons call rest ih =>
      let after := (context.invoke call.variant call.recording allocator).context
      have kept : after.fresh = context.fresh ∧ after.wiped = after := by
        by_cases succeeded :
            (context.invoke call.variant call.recording allocator).result = .ok Status.ok
        · obtain ⟨-, -, finished⟩ := invoke_succeeded succeeded
          simp only [after, finished]
          exact ⟨(fresh_withTag_wiped context call.variant).trans (congrArg fresh keeping),
            wiped_wiped _⟩
        · simp only [after, (invoke_failed succeeded).1, keeping, and_self]
      have later := ih kept.2 (unhindered.invoke call) (kept.1 ▸ anew)
      rw [kept.1] at later
      rw [run, List.map_cons, observed_fresh unhindered anew]
      exact congrArg _ later

/-- Calls that fail leave the context to those behind them as they found it. -/
theorem run_append_failing [Machine] (before : List Call) {allocator : Allocator}
    (failing : ∀ seen ∈ context.run allocator before, ¬ seen.1.Succeeded)
    (unhindered : context.Unhindered allocator)
    (anew : context.fresh.Unhindered freshAllocator) :
    ∃ left, context.Unhindered left ∧ ∀ rest, context.run allocator (before ++ rest) =
      before.map (context.fresh.observed freshAllocator) ++ context.run left rest := by
  induction before generalizing allocator with
  | nil => exact ⟨allocator, unhindered, fun rest => rfl⟩
  | cons call later ih =>
      have failed : (context.invoke call.variant call.recording allocator).result ≠ .ok Status.ok :=
        failing _ List.mem_cons_self
      have same := (invoke_failed failed).1
      have following := unhindered.invoke call
      simp only [run, same, List.mem_cons, forall_eq_or_imp] at failing
      simp only [same] at following
      obtain ⟨left, free, ran⟩ := ih failing.2 following
      refine ⟨left, free, fun rest => ?_⟩
      rw [List.cons_append, run, List.map_cons, List.cons_append, same, ran rest,
        observed_fresh unhindered anew]

/-- The first call that succeeds is the last that sees the password. -/
theorem run_wiping [Machine] (wipes : context.Wipes) (call : Call) (rest : List Call)
    (unhindered : context.Unhindered allocator)
    (anew : context.fresh.Unhindered freshAllocator)
    (succeeded : (context.invoke call.variant call.recording allocator).result = .ok Status.ok) :
    context.run allocator (call :: rest) =
      context.fresh.observed freshAllocator call ::
        rest.map (context.zeroed.observed freshAllocator) := by
  obtain ⟨-, -, finished⟩ := invoke_succeeded succeeded
  have following := unhindered.invoke call
  have zeroed : (context.withTag call.variant).wiped.fresh = context.zeroed :=
    (fresh_withTag_wiped context call.variant).trans (fresh_wiped_of_wipes wipes)
  have zeroedAnew : context.zeroed.Unhindered freshAllocator := anew.of_fresh (.inr rfl) rfl
  simp only [finished] at following
  rw [run, finished, observed_fresh unhindered anew,
    run_keeping rest (wiped_wiped _) following (zeroed ▸ zeroedAnew), zeroed]

/-- What is seen of a call hangs on the variant and on what the tag is computed from. Calls
in a row on one context are therefore seen like calls on fresh ones, unless a password is
wiped: then this is so up to the first call that succeeds, and from the next call on the
password is zeros. -/
theorem observations_independent [Machine] (constructible : context.Constructible) :
    (∀ (other : Context) (allocator otherAllocator : Allocator) (variant : Variant)
        (recording otherRecording : Bool) (capacity : Int),
      other.Constructible → context.Agrees other →
      context.Supplied allocator → other.Supplied otherAllocator →
      context.observe allocator ⟨variant, recording, capacity⟩ =
        other.observe otherAllocator ⟨variant, otherRecording, capacity⟩) ∧
    ∀ allocator freshAllocator, context.Supplied allocator → context.Supplied freshAllocator →
      (¬ context.Wipes → ∀ calls, context.run allocator calls =
        calls.map (context.fresh.observed freshAllocator)) ∧
      (context.Wipes → ∀ before call after,
        (∀ seen ∈ context.run allocator before, ¬ seen.1.Succeeded) →
        context.run allocator (before ++ [call]) =
          (before ++ [call]).map (context.fresh.observed freshAllocator) ∧
        ((context.fresh.observe freshAllocator call).Succeeded →
          context.run allocator (before ++ call :: after) =
            (before ++ [call]).map (context.fresh.observed freshAllocator) ++
              after.map (context.zeroed.observed freshAllocator))) := by
  have threads := constructible.threads_lt
  constructor
  · intro other allocator otherAllocator variant recording otherRecording capacity otherConstructible
      agrees supplied otherSupplied
    exact observe_congr agrees.inputs ⟨threads, supplied⟩
      ⟨otherConstructible.threads_lt, otherSupplied⟩ _ _ _ _
  intro allocator freshAllocator supplied freshSupplied
  have unhindered : context.Unhindered allocator := ⟨threads, supplied⟩
  have anew : context.fresh.Unhindered freshAllocator := ⟨threads, freshSupplied⟩
  constructor
  · intro keeping calls
    exact run_keeping calls (wiped_of_not_wipes keeping) unhindered anew
  intro wipes before call after failing
  obtain ⟨left, free, ran⟩ := run_append_failing before failing unhindered anew
  constructor
  · rw [ran [call], run, run, observed_fresh free anew, List.map_append, List.map_singleton]
  · intro succeeded
    have same := congrArg (fun seen => seen.1.result) (observed_fresh free anew call)
    rw [ran (call :: after), run_wiping wipes call after free anew (same.trans succeeded),
      List.map_append, List.map_singleton, List.append_assoc, List.singleton_append]

attribute [local instance] Machine.workstation

/-- As much memory as `Phc.raisedContext` is raised to, and other threads, flags and
contents of the output buffer. -/
def otherContext : Context :=
  { Phc.raisedContext with
    memory := 32, threads := 9, customAllocator := true, clearPassword := false
    clearSecret := true, printInternals := false, written := [1, 2, 3] }

theorem raisedContext_constructible : Phc.raisedContext.Constructible := by
  refine ⟨{ outputLength := 32, password := Text.utf8 "password", salt := Bytes.zeros 16
            passes := 3, memory := 16, lanes := 4, threads := 1, clearPassword := true
            printInternals := true }, ?_⟩
  rfl

theorem otherContext_constructible : otherContext.Constructible := by
  refine ⟨{ outputLength := 32, password := Text.utf8 "password", salt := Bytes.zeros 16
            passes := 3, memory := 32, lanes := 4, threads := 9, callbacks := .both
            clearSecret := true }, ?_⟩
  rfl

theorem raisedContext_observed :
    Phc.raisedContext.observe {} ⟨.d, true, 300⟩ =
      otherContext.observe { limit := 40000 } ⟨.d, false, 300⟩ ∧
    Phc.raisedContext.run {} [⟨.d, true, 300⟩, ⟨.i, false, 300⟩] =
      [Phc.raisedContext.fresh.observed {} ⟨.d, true, 300⟩,
       Phc.raisedContext.zeroed.observed {} ⟨.i, false, 300⟩] := by
  obtain ⟨alike, rows⟩ := observations_independent raisedContext_constructible
  have supplied : Phc.raisedContext.Supplied {} := supplied_of_unlimited rfl
  have otherSupplied : otherContext.Supplied { limit := 40000 } := fun _ => .inr (by decide)
  obtain ⟨-, wiping⟩ := rows {} {} supplied supplied
  have succeeded : (Phc.raisedContext.fresh.observe {} ⟨.d, true, 300⟩).Succeeded := by
    have anew : Phc.raisedContext.fresh.Unhindered {} := ⟨by decide, supplied⟩
    exact (anew.result .d true).trans rfl
  refine ⟨alike otherContext {} _ .d true false 300 otherContext_constructible ?_ supplied
    otherSupplied, ?_⟩
  · constructor <;> rfl
  · exact (wiping ⟨rfl, rfl⟩ [] ⟨.d, true, 300⟩ [⟨.i, false, 300⟩] nofun).2 succeeded

end Context

end Argon2Workbench
