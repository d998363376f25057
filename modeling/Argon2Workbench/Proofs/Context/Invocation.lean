import Argon2Workbench.Context.Invocation
import Argon2Workbench.Proofs.Outcome

namespace Argon2Workbench

open Hash.Argon2 (Inputs Status Variant)

/-- The status of a computation whose area is not put on an allocator of its own. -/
def Hash.Argon2.Inputs.outcome [Machine] (inputs : Inputs) : Status :=
  inputs.refusal?.getD
    (if inputs.workingBytes < Machine.memory then Status.ok else Status.allocationFailed)

theorem Hash.Argon2.Inputs.outcome_of_fits [Machine] (inputs : Inputs) (tag : 4 ≤ inputs.tagLength)
    (salt : 8 ≤ inputs.salt.length) (passes : 1 ≤ inputs.passes) :
    inputs.outcome =
      if inputs.workingBytes < Machine.memory then Status.ok else Status.allocationFailed := by
  rw [outcome, refusal?, if_neg (by omega), if_neg (by omega), if_neg (by omega),
    Option.getD_none]

namespace Hash.Argon2.Status

theorem check_ok (variant : Variant) : check ok variant = .ok () := by
  rw [check, if_pos rfl]

theorem check_failed {status : Status} (failed : status ≠ ok)
    (representable : WordType.signed.holds 32 status = true) (variant : Variant) :
    status.check variant = .error (.failed { status, variant }) := by
  have held : Failure.representable { status, variant } = true := representable
  rw [check, if_neg failed, if_pos held]

end Hash.Argon2.Status

namespace Context

variable {context : Context} {variant : Variant} {recording : Bool} {allocator : Allocator}

theorem unmarshallable?_eq_none_iff :
    context.unmarshallable? = none ↔ ∀ value ∈ context.marshalled, value < twoTo 32 := by
  have none : context.unmarshallable? = none ↔
      context.marshalled.find? (fun value => decide (twoTo 32 ≤ value)) = none := by
    cases found : context.marshalled.find? (fun value => decide (twoTo 32 ≤ value)) <;>
      simp [unmarshallable?, found]
  rw [none, List.find?_eq_none]
  simp only [decide_eq_true_eq, Nat.not_le]

theorem output_withTag (context : Context) (variant : Variant) :
    (context.withTag variant).output = Hash.Argon2.tag variant context.inputs := by
  have full : context.outputLength - (Hash.Argon2.tag variant context.inputs).length = 0 := by
    rw [Hash.Argon2.length_tag]
    exact Nat.sub_self _
  simp only [output, withTag, full]
  exact List.append_nil _

/-- The output buffer stays as it is when a password is wiped. -/
theorem output_wiped (context : Context) : context.wiped.output = context.output := by
  unfold wiped
  split <;> rfl

theorem status_default [Machine] (plain : context.customAllocator = false) :
    context.status allocator = (allocator, context.inputs.outcome, []) := by
  cases refusal : context.inputs.refusal? with
  | some refused => simp [status, Inputs.outcome, refusal]
  | none => simp [status, Inputs.outcome, refusal, reserve, plain]

theorem level_raisedLog (context : Context) (variant : Variant) :
    ∀ record ∈ context.raisedLog variant, record.level = .info := by
  intro record member
  rw [raisedLog] at member
  split at member
  · contradiction
  · rw [List.mem_singleton.mp member]

theorem pack_ok {value : Nat} (fits : value < twoTo 32) :
    pack value = .ok (Hash.littleEndian 4 value) := by
  rw [pack, if_pos fits]

theorem packField_ok {field : Bytes} (fits : field.length < twoTo 32) :
    packField field = .ok (Hash.Argon2.counted field) := by
  rw [packField, pack_ok fits, ok_bind]
  rfl

/-- Whatever can be handed over can be packed, and packed it is the very message that the
primitive hashes first. -/
theorem prehash_ok (fits : context.unmarshallable? = none) (variant : Variant) :
    context.prehash variant = .ok (context.inputs.initialHash variant) := by
  rw [unmarshallable?_eq_none_iff] at fits
  have small : Hash.Argon2.version < twoTo 32 ∧ variant.code < twoTo 32 := by
    cases variant <;> decide
  have numbers : ∀ value ∈ [context.lanes, context.outputLength, context.effectiveMemory,
      context.passes, Hash.Argon2.version, variant.code],
      pack value = .ok (Hash.littleEndian 4 value) := by
    intro value member
    apply pack_ok
    simp only [List.mem_cons, List.not_mem_nil, or_false] at member
    rcases member with rfl | rfl | rfl | rfl | rfl | rfl
    · exact fits _ (by simp [marshalled])
    · exact fits _ (by simp [marshalled])
    · exact fits _ (by simp [marshalled])
    · exact fits _ (by simp [marshalled])
    · exact small.1
    · exact small.2
  have fields : ∀ field ∈ [context.password, context.salt, context.secret.getD [],
      context.associated.getD []], packField field = .ok (Hash.Argon2.counted field) := by
    intro field member
    apply packField_ok
    apply fits
    simp only [List.mem_cons, List.not_mem_nil, or_false] at member
    rcases member with rfl | rfl | rfl | rfl <;> simp [marshalled]
  rw [prehash, mapM_eq_ok _ numbers, ok_bind, mapM_eq_ok _ fields, ok_bind, Inputs.initialHash,
    Inputs.initialMessage]
  simp only [List.map_cons, List.map_nil, List.flatten_cons, List.flatten_nil, List.append_nil,
    List.append_assoc]
  rfl

theorem record_ok (fits : context.unmarshallable? = none) (variant : Variant) :
    ∃ record, context.record variant = .ok record :=
  ⟨_, by rw [record, prehash_ok fits, ok_bind]; rfl⟩

variable [Machine]

theorem status_refused {refused : Status} (refusal : context.inputs.refusal? = some refused) :
    (context.status allocator).2.1 = refused := by
  rw [status, refusal]

theorem status_unrefused (accepted : context.inputs.refusal? = none) :
    (context.status allocator).2.1 = Status.ok ∨
      (context.status allocator).2.1 = Status.allocationFailed := by
  simp only [status, accepted]
  split
  · exact .inl rfl
  · exact .inr rfl

/-- Whatever can be handed over comes back with the status of the primitive. -/
theorem result_of_fits (fits : context.unmarshallable? = none) :
    (context.invoke variant recording allocator).result = .ok (context.status allocator).2.1 := by
  by_cases done : (context.status allocator).2.1 = Status.ok
  · obtain ⟨record, recorded⟩ := (context.withTag variant).record_ok fits variant
    simp only [invoke, fits, if_pos done, recorded]
    split <;> rfl
  · simp only [invoke, fits, if_neg done]

theorem result_error_iff :
    (∃ error, (context.invoke variant recording allocator).result = .error error) ↔
      ∃ error, context.unmarshallable? = some error := by
  cases fits : context.unmarshallable? with
  | none => simp [result_of_fits fits]
  | some error => simp [invoke, fits]

theorem status_of_returned {returned : Status}
    (done : (context.invoke variant recording allocator).result = .ok returned) :
    (context.status allocator).2.1 = returned := by
  cases fits : context.unmarshallable? with
  | none =>
      rw [result_of_fits fits] at done
      exact Except.ok.inj done
  | some error => simp [invoke, fits] at done

/-- A call that has succeeded has written the tag, and wiped the password if that was asked
for. -/
theorem invoke_succeeded
    (succeeded : (context.invoke variant recording allocator).result = .ok Status.ok) :
    context.unmarshallable? = none ∧ (context.status allocator).2.1 = Status.ok ∧
      (context.invoke variant recording allocator).context = (context.withTag variant).wiped := by
  cases fits : context.unmarshallable? with
  | some error => simp [invoke, fits] at succeeded
  | none =>
      have done : (context.status allocator).2.1 = Status.ok := by
        rw [result_of_fits fits] at succeeded
        exact Except.ok.inj succeeded
      obtain ⟨record, recorded⟩ := (context.withTag variant).record_ok fits variant
      refine ⟨rfl, done, ?_⟩
      simp only [invoke, fits, if_pos done, recorded]
      split <;> rfl

/-- A call that has not succeeded, whether it was turned down or could not be made, leaves
the context as it was. -/
theorem invoke_failed
    (failed : (context.invoke variant recording allocator).result ≠ .ok Status.ok) :
    (context.invoke variant recording allocator).context = context ∧
      (context.invoke variant recording allocator).record = none := by
  cases fits : context.unmarshallable? with
  | some error => simp [invoke, fits]
  | none =>
      have other : (context.status allocator).2.1 ≠ Status.ok := by
        rw [result_of_fits fits] at failed
        exact fun done => failed (congrArg Except.ok done)
      simp [invoke, fits, other]

theorem succeeded_of_recorded {record : String}
    (recorded : (context.invoke variant recording allocator).record = some record) :
    (context.invoke variant recording allocator).result = .ok Status.ok := by
  apply Classical.byContradiction
  intro failed
  rw [(invoke_failed failed).2] at recorded
  contradiction

theorem output_succeeded
    (succeeded : (context.invoke variant recording allocator).result = .ok Status.ok) :
    (context.invoke variant recording allocator).context.output =
      Hash.Argon2.tag variant context.inputs := by
  obtain ⟨-, -, finished⟩ := invoke_succeeded succeeded
  rw [finished, output_wiped, output_withTag]

/-- A record comes of a call that has succeeded, if the context asks for one and somebody
takes it. -/
theorem record_succeeded
    (succeeded : (context.invoke variant recording allocator).result = .ok Status.ok) :
    (context.invoke variant recording allocator).record =
      if recording && context.printInternals then
        ((context.withTag variant).record variant).toOption
      else none := by
  obtain ⟨fits, done, -⟩ := invoke_succeeded succeeded
  obtain ⟨record, recorded⟩ := (context.withTag variant).record_ok fits variant
  simp only [invoke, fits, if_pos done, recorded]
  split <;> rfl

theorem record_untaken (context : Context) (variant : Variant) (allocator : Allocator) :
    (context.invoke variant false allocator).record = none := by
  by_cases succeeded : (context.invoke variant false allocator).result = .ok Status.ok
  · rw [record_succeeded succeeded]
    rfl
  · exact (invoke_failed succeeded).2

theorem invoke_unrecorded {after : Allocator} {log : List Log.Record}
    (fits : context.unmarshallable? = none)
    (done : context.status allocator = (after, Status.ok, log)) :
    context.invoke variant false allocator =
      { result := .ok Status.ok, context := (context.withTag variant).wiped, allocator := after
        log := context.raisedLog variant ++ log } := by
  simp [invoke, fits, done]

theorem invoke_recorded {after : Allocator} {log : List Log.Record} {record : String}
    (fits : context.unmarshallable? = none)
    (done : context.status allocator = (after, Status.ok, log))
    (printing : context.printInternals = true)
    (recorded : (context.withTag variant).record variant = .ok record) :
    context.invoke variant true allocator =
      { result := .ok Status.ok, context := (context.withTag variant).wiped, allocator := after
        record := some record, log := context.raisedLog variant ++ log } := by
  simp [invoke, fits, done, printing, recorded]

theorem invoke_refused {after : Allocator} {refused : Status} {log : List Log.Record}
    (fits : context.unmarshallable? = none)
    (done : context.status allocator = (after, refused, log)) (failed : refused ≠ Status.ok) :
    context.invoke variant recording allocator =
      { result := .ok refused, context, allocator := after
        log := context.raisedLog variant ++ log ++ [failureLog variant refused] } := by
  simp [invoke, fits, done, failed]

end Context

end Argon2Workbench
