import Argon2Workbench.Proofs.Scenario.Steps

/-! Two programs in lockstep, in scenarios that differ in the password buffer alone.

As long as neither looks into its buffer, both fail with the same fault, or both succeed
and what follows them is in lockstep again.
-/

namespace Argon2Workbench.Scenario

/-- The same scenario, with any password in the buffer. -/
inductive Twin (scenario : Scenario) : Scenario → Prop where
  | mk (password : PasswordBuffer) : Twin scenario { scenario with password }

section

variable {First Second : Type}

/-- Both ends of two runs: the same fault in twins, or results that agree. -/
inductive InStep (Agree : First → Second → Scenario → Scenario → Prop) :
    Except Fault First × Scenario → Except Fault Second × Scenario → Prop where
  | done {result : First} {other : Second} {after twin : Scenario}
      (agree : Agree result other after twin) : InStep Agree (.ok result, after) (.ok other, twin)
  | failed (fault : Fault) {after twin : Scenario} (twins : after.Twin twin) :
      InStep Agree (.error fault, after) (.error fault, twin)

def Same (result other : First) (after twin : Scenario) : Prop :=
  other = result ∧ after.Twin twin

end

variable {First Second Third Fourth Reason : Type} {scenario twin : Scenario}

theorem Twin.refl (scenario : Scenario) : scenario.Twin scenario :=
  .mk scenario.password

theorem Twin.held (twins : scenario.Twin twin) (buffer other : PasswordBuffer) :
    Twin { scenario with password := buffer } { twin with password := other } := by
  cases twins with
  | mk => exact .mk other

theorem Twin.logged (twins : scenario.Twin twin) (records : List Log.Record) :
    (scenario.logged records).Twin (twin.logged records) := by
  cases twins with
  | mk password => exact .mk password

namespace InStep

variable {Agree : First → Second → Scenario → Scenario → Prop}
  {Next : Third → Fourth → Scenario → Scenario → Prop}

/-- Any program is in lockstep with itself. -/
theorem refl {Agree : First → First → Scenario → Scenario → Prop}
    (agree : ∀ result after, Agree result result after after)
    (outcome : Except Fault First × Scenario) : InStep Agree outcome outcome := by
  rcases outcome with ⟨fault | result, after⟩
  · exact .failed fault (.refl after)
  · exact .done (agree result after)

theorem imp {Other : First → Second → Scenario → Scenario → Prop}
    {left : Except Fault First × Scenario} {right : Except Fault Second × Scenario}
    (inStep : InStep Agree left right)
    (weaker : ∀ result other after twin, Agree result other after twin →
      Other result other after twin) : InStep Other left right := by
  cases inStep with
  | done agree => exact .done (weaker _ _ _ _ agree)
  | failed fault twins => exact .failed fault twins

theorem bind {program : Host.Program Run First} {other : Host.Program Run Second}
    {next : First → Host.Program Run Third} {otherNext : Second → Host.Program Run Fourth}
    (first : InStep Agree (scenario.run program) (twin.run other))
    (rest : ∀ {result otherResult after otherAfter}, Agree result otherResult after otherAfter →
      InStep Next (after.run (next result)) (otherAfter.run (otherNext otherResult))) :
    InStep Next (scenario.run (program >>= next)) (twin.run (other >>= otherNext)) := by
  rw [run_bind, run_bind]
  generalize scenario.run program = left at first ⊢
  generalize twin.run other = right at first ⊢
  cases first with
  | done agree => exact rest agree
  | failed fault twins => exact .failed fault twins

/-- After programs with the same results, the same follows. -/
theorem bind_same {program other : Host.Program Run First}
    {next : First → Host.Program Run Third} {otherNext : First → Host.Program Run Fourth}
    (first : InStep Same (scenario.run program) (twin.run other))
    (rest : ∀ result {after otherAfter : Scenario}, after.Twin otherAfter →
      InStep Next (after.run (next result)) (otherAfter.run (otherNext result))) :
    InStep Next (scenario.run (program >>= next)) (twin.run (other >>= otherNext)) := by
  refine first.bind fun same => ?_
  obtain ⟨rfl, twins⟩ := same
  exact rest _ twins

theorem pure (twins : scenario.Twin twin) (result : First) :
    InStep Same (scenario.run (Pure.pure result)) (twin.run (Pure.pure result)) :=
  .done ⟨rfl, twins⟩

theorem throw (twins : scenario.Twin twin) (fault : Fault) :
    InStep Agree (scenario.run (throw fault)) (twin.run (throw fault)) :=
  .failed fault twins

theorem lift (twins : scenario.Twin twin) {operation : Run First}
    (blind : ∀ scenario password, operation { scenario with password } =
      ((operation scenario).1, { (operation scenario).2 with password })) :
    InStep Same (scenario.run (liftM operation)) (twin.run (liftM operation)) := by
  cases twins with
  | mk password =>
      rw [run_lift, run_lift, blind scenario password]
      exact .done ⟨rfl, .mk password⟩

theorem orFault (twins : scenario.Twin twin) (fault : Reason → Fault)
    (outcome : Except Reason First) :
    InStep Same (scenario.run (Host.orFault fault outcome))
      (twin.run (Host.orFault fault outcome)) := by
  cases outcome with
  | ok result => exact .done ⟨rfl, twins⟩
  | error reason => exact .failed (fault reason) twins

variable [Machine]

/-- Calls without a record that come to the same, each with a context of its own. -/
theorem settled {call other : Run Invocation} {invocation : Invocation} {finished : Context}
    {after otherAfter : Scenario} (answered : call scenario = (invocation, after))
    (otherAnswered : other twin = ({ invocation with context := finished }, otherAfter))
    (twins : after.Twin otherAfter) (unrecorded : invocation.record = none) (path : Text) :
    InStep
      (fun answer otherAnswer after twin => answer.1 = invocation.context ∧
        otherAnswer.1 = finished ∧ otherAnswer.2 = answer.2 ∧ after.Twin twin)
      (scenario.run (Host.settled call path)) (twin.run (Host.settled other path)) := by
  cases result : invocation.result with
  | error error =>
      rw [run_settled_error answered result, run_settled_error otherAnswered result]
      exact .failed _ (twins.logged _)
  | ok status =>
      rw [run_settled answered result unrecorded, run_settled otherAnswered result unrecorded]
      exact .done ⟨rfl, rfl, rfl, twins.logged _⟩

/-- Two passwords are lent, and both are taken back at the end. -/
theorem lending (twins : scenario.Twin twin) (password otherPassword : Bytes)
    {program : Host.Program Run First} {other : Host.Program Run Second}
    (lent : ∀ {scenario twin : Scenario}, scenario.Twin twin →
      InStep Agree (scenario.run program) (twin.run other))
    (returned : ∀ {result otherResult} {after otherAfter : Scenario},
      Agree result otherResult after otherAfter →
        Agree result otherResult (after.returned password)
          (otherAfter.returned otherPassword)) :
    InStep Agree (scenario.run (Host.lending password program))
      (twin.run (Host.lending otherPassword other)) := by
  rw [run_lending, run_lending]
  have first : InStep Agree ((scenario.lent password).run program)
      ((twin.lent otherPassword).run other) :=
    lent (twins.held (.fill password) (.fill otherPassword))
  generalize (scenario.lent password).run program = left at first ⊢
  generalize (twin.lent otherPassword).run other = right at first ⊢
  cases first with
  | done agree => exact .done (returned agree)
  | failed fault twins => exact .failed fault (twins.held _ _)

theorem readClock (twins : scenario.Twin twin) :
    InStep Same (scenario.run Host.readClock) (twin.run Host.readClock) := by
  refine bind_same (lift twins fun _ _ => rfl) fun reading _ _ twins => ?_
  cases reading with
  | some reading => exact pure twins reading
  | none => exact throw twins .seriesEnded

theorem readCycles (twins : scenario.Twin twin) (counter : CycleCounter) :
    InStep Same (scenario.run (Host.readCycles counter)) (twin.run (Host.readCycles counter)) := by
  refine bind_same (lift twins fun _ _ => rfl) fun reading _ _ twins => ?_
  cases reading with
  | some reading => exact orFault twins .conversion (counter.cycles reading)
  | none => exact throw twins .seriesEnded

end InStep

end Argon2Workbench.Scenario
