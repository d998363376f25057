namespace Argon2Workbench

variable {Reason First Second : Type}

theorem ok_bind (value : First) (next : First → Except Reason Second) :
    (Except.ok value >>= next) = next value :=
  rfl

theorem error_bind (reason : Reason) (next : First → Except Reason Second) :
    (Except.error reason >>= next) = Except.error reason :=
  rfl

theorem bind_eq_ok {outcome : Except Reason First} {next : First → Except Reason Second}
    {result : Second} (done : outcome >>= next = .ok result) :
    ∃ value, outcome = .ok value ∧ next value = .ok result := by
  cases outcome with
  | error reason => simp [error_bind] at done
  | ok value => exact ⟨value, rfl, done⟩

theorem mapM_eq_ok {outcome : First → Except Reason Second} {result : First → Second}
    (values : List First) (done : ∀ value ∈ values, outcome value = .ok (result value)) :
    values.mapM outcome = .ok (values.map result) := by
  induction values with
  | nil => rfl
  | cons value rest ih =>
      have later := ih fun other member => done other (List.mem_cons_of_mem value member)
      rw [List.mapM_cons, done value List.mem_cons_self, ok_bind, later]
      rfl

end Argon2Workbench
