import Argon2Workbench.Proofs.Session.Run

namespace Argon2Workbench

open CommandLine (Asked Parameters Token)
open Hash.Argon2 (Inputs Status Variant)

namespace CommandLine.Asked

def inputs (asked : Asked) : Inputs :=
  Session.runInputs asked.wrappedPasses asked.wrappedMemory asked.wrappedLanes asked.password

def hash (asked : Asked) (variant : Variant) : Phc :=
  Session.runHash variant asked.wrappedPasses asked.wrappedMemory asked.wrappedLanes
    asked.password

variable [Machine]

/-- What a run fails with. Lanes and threads are looked at before anything is hashed, and
passes and memory by the primitive. -/
def fault? (asked : Asked) : Option Fault :=
  match asked.variant? with
  | none => some .unknownVariant
  | some variant =>
      if asked.wrappedLanes = 0 then some (.context (.violation (.lanes 0)))
      else if asked.wrappedThreads = 0 then some (.context (.violation (.threads 0)))
      else if asked.wrappedPasses = 0 then
        some (.status (.failed { status := Status.passesTooFew, variant }))
      else if asked.inputs.workingBytes < Machine.memory then none
      else some (.status (.failed { status := Status.allocationFailed, variant }))

variable {asked : Asked}

theorem isReported_of_fault? {fault : Fault} (failed : asked.fault? = some fault) :
    fault.isReported = true := by
  have lanes : (Fault.context (.violation (.lanes 0))).isReported = true := by decide +kernel
  have threads : (Fault.context (.violation (.threads 0))).isReported = true := by decide +kernel
  unfold fault? at failed
  split at failed
  · cases failed
    rfl
  · split_ifs at failed <;> cases failed
    · exact lanes
    · exact threads
    · rfl
    · rfl

/-- There is a variant of that name, no number wraps to zero, and there is memory to work
in. -/
def Runnable (asked : Asked) : Prop :=
  asked.variant? ≠ none ∧ asked.lanes % 16777215 ≠ 0 ∧ asked.threads % 16777215 ≠ 0 ∧
    asked.passes % 16777216 ≠ 0 ∧ asked.inputs.workingBytes < Machine.memory

theorem fault?_eq_none_iff : asked.fault? = none ↔ asked.Runnable := by
  have modulus : twoTo 24 = 16777216 := by decide
  have lanes : asked.wrappedLanes = 0 ↔ asked.lanes % 16777215 = 0 := by
    unfold wrappedLanes
    omega
  have threads : asked.wrappedThreads = 0 ↔ asked.threads % 16777215 = 0 := by
    unfold wrappedThreads
    omega
  have passes : asked.wrappedPasses = 0 ↔ asked.passes % 16777216 = 0 := by
    unfold wrappedPasses
    rw [modulus]
    omega
  rw [fault?, Runnable]
  cases asked.variant? with
  | none => simp
  | some variant =>
      simp only
      split_ifs <;> simp_all

end CommandLine.Asked

namespace Session

variable {scenario : Scenario} {path : Text} {tokens : List Token} {parameters : Parameters}
  {variant : Variant}

/-- Either lanes or threads are none, which no context is built with, or there is a context. -/
theorem unbuilt_or_built [Machine] (accepted : Parameters.ofTokens tokens = .ok parameters)
    (named : (Asked.ofTokens tokens).variant? = some variant) :
    (∃ error,
      (request parameters (PasswordBuffer.source parameters.password)).build = .error error ∧
        (Asked.ofTokens tokens).fault? = some (.context error)) ∨
      (Asked.ofTokens tokens).wrappedLanes ≠ 0 ∧ (Asked.ofTokens tokens).wrappedThreads ≠ 0 ∧
        (request parameters (PasswordBuffer.source parameters.password)).build =
          .ok (request parameters (PasswordBuffer.source parameters.password)).context := by
  obtain ⟨-, -, -, lanesEq, threadsEq, -⟩ := Parameters.eq_asked accepted
  have wrapped := Parameters.wrapped_of_accepted accepted
  by_cases noLanes : (Asked.ofTokens tokens).wrappedLanes = 0
  · refine .inl ⟨.violation (.lanes 0), ?_, ?_⟩
    · rw [request, lanesEq, noLanes]
      exact Request.build_run_no_lanes _ _ _ _
    · simp only [Asked.fault?, named, if_pos noLanes]
  by_cases noThreads : (Asked.ofTokens tokens).wrappedThreads = 0
  · refine .inl ⟨.violation (.threads 0), ?_, ?_⟩
    · rw [request, threadsEq, noThreads]
      exact Request.build_run_no_threads _ ⟨by omega, wrapped.lanes⟩
    · simp only [Asked.fault?, named, if_neg noLanes, if_pos noThreads]
  exact .inr ⟨noLanes, noThreads, build_wrapped wrapped (by omega) (by omega)⟩

theorem unmarshallable?_accepted (accepted : Parameters.ofTokens tokens = .ok parameters)
    (short : (Asked.ofTokens tokens).password.length < twoTo 32) :
    (request parameters (PasswordBuffer.source parameters.password)).context.unmarshallable? =
      none := by
  obtain ⟨-, -, -, -, -, passwordEq⟩ := Parameters.eq_asked accepted
  exact unmarshallable?_wrapped (Parameters.wrapped_of_accepted accepted)
    (by rwa [← passwordEq] at short)

section

variable {rate : Binary64} {counter : CycleCounter} (path)
  (rated : CycleCounter.build rate = .ok counter) (ready : scenario.Counted counter)
  (accepted : Parameters.ofTokens tokens = .ok parameters)
  (short : (Asked.ofTokens tokens).password.length < twoTo 32)

include rated ready accepted short

theorem run_faulty [Machine] {fault : Fault}
    (faulty : (Asked.ofTokens tokens).fault? = some fault) :
    ∃ after records,
      scenario.run (run parameters { recordPath := path, gigahertz := rate }) =
        (.error fault, after) ∧
      scenario.Writes after [] records := by
  obtain ⟨tagEq, passesEq, memoryEq, lanesEq, -, passwordEq⟩ := Parameters.eq_asked accepted
  have fits := unmarshallable?_accepted accepted short
  cases named : (Asked.ofTokens tokens).variant? with
  | none =>
      simp only [Asked.fault?, named, Option.some.injEq] at faulty
      rw [← faulty]
      exact ⟨scenario, [], run_unnamed (tagEq.trans named), .refl scenario⟩
  | some variant =>
      have tag : named? parameters.tag = some variant := tagEq.trans named
      rcases unbuilt_or_built accepted named with
        ⟨error, refused, found⟩ | ⟨someLanes, someThreads, built⟩
      · cases faulty.symm.trans found
        obtain ⟨start, started⟩ := ready.clock scenario.clockReads
        obtain ⟨ticks, cycles, read, counted⟩ := ready.first
        obtain ⟨after, ran, writes⟩ := run_unbuilt path rated tag started read counted refused
        exact ⟨after, [], ran, writes⟩
      simp only [Asked.fault?, named, if_neg someLanes, if_neg someThreads] at faulty
      split_ifs at faulty with noPasses found <;> cases faulty
      · refine run_turned_down path rated tag ready built fits ?_ (by decide) (by decide)
        rw [outcome_request, if_pos (by omega)]
      · refine run_turned_down path rated tag ready built fits ?_ (by decide) (by decide)
        rw [outcome_request, if_neg (by omega), passesEq, memoryEq, lanesEq, passwordEq]
        exact if_neg found

theorem run_answered [Machine] (named : (Asked.ofTokens tokens).variant? = some variant)
    (faultless : (Asked.ofTokens tokens).fault? = none) :
    let asked := Asked.ofTokens tokens
    ∃ after seconds mebicycles records,
      scenario.run (run parameters { recordPath := path, gigahertz := rate }) =
        (.ok (asked.hash variant).tag, after) ∧
      Figures counter scenario seconds mebicycles ∧
      scenario.Writes after (Text.ofString (runReport (asked.hash variant) asked.wrappedMemory
        asked.password seconds mebicycles)) records ∧
      ∀ record ∈ records, record.level = .info := by
  intro asked
  obtain ⟨tagEq, passesEq, memoryEq, lanesEq, threadsEq, passwordEq⟩ := Parameters.eq_asked accepted
  have wrapped := Parameters.wrapped_of_accepted accepted
  let password := PasswordBuffer.source parameters.password
  simp only [Asked.fault?, named] at faultless
  split_ifs at faultless with noLanes noThreads noPasses found
  have built : (request parameters password).build = .ok _ :=
    build_wrapped wrapped (by omega) (by omega)
  have fits : (request parameters password).context.unmarshallable? = none :=
    unmarshallable?_accepted accepted short
  have done : (request parameters password).context.inputs.outcome = Status.ok := by
    rw [outcome_request, if_neg (by omega), if_pos]
    rw [passesEq, memoryEq, lanesEq, show password = asked.password from passwordEq]
    exact found
  obtain ⟨after, seconds, mebicycles, ran, measures, writes⟩ :=
    run_done path rated (tagEq.trans named) ready built fits wrapped done
  rw [passesEq, memoryEq, lanesEq, passwordEq] at ran writes
  exact ⟨after, seconds, mebicycles, _, ran, measures, writes, Context.level_raisedLog _ variant⟩

end

theorem run_faultless [Machine] (path : Text) (ready : scenario.Timed)
    (accepted : Parameters.ofTokens tokens = .ok parameters)
    (short : (Asked.ofTokens tokens).password.length < twoTo 32)
    (named : (Asked.ofTokens tokens).variant? = some variant)
    (faultless : (Asked.ofTokens tokens).fault? = none) :
    let asked := Asked.ofTokens tokens
    ∃ after seconds mebicycles records,
      scenario.run (run parameters { recordPath := path }) =
        (.ok (asked.hash variant).tag, after) ∧
      Figures CycleCounter.steady scenario seconds mebicycles ∧
      scenario.Writes after (Text.ofString (runReport (asked.hash variant) asked.wrappedMemory
        asked.password seconds mebicycles)) records ∧
      ∀ record ∈ records, record.level = .info :=
  run_answered path CycleCounter.build_one (CycleCounter.counted_steady ready) accepted short named
    faultless

end Session

end Argon2Workbench
