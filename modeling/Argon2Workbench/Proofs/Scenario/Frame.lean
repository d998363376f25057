import Argon2Workbench.Proofs.Context.Sequence
import Argon2Workbench.Proofs.Scenario.Recording

/-! What a call changes.

A call that does not succeed changes neither its context nor the files, wherever it has
stopped: before the primitive was called, because a number did not fit its word, or behind it,
because the inputs or the memory were refused. One that succeeds changes two buffers, and the
file of records if there is a record.
-/

namespace Argon2Workbench

open Hash.Argon2 (Status Variant)

namespace Context

variable {context : Context} {variant : Variant} {recording : Bool} {allocator : Allocator}

def succeeded (context : Context) (variant : Variant) : Context :=
  { context with
    written := Hash.Argon2.tag variant context.inputs
    password :=
      if context.clearPassword && context.wipeable then Bytes.zeros context.password.length
      else context.password }

theorem withTag_wiped (context : Context) (variant : Variant) :
    (context.withTag variant).wiped = context.succeeded variant := by
  by_cases wipes : context.Wipes
  · simp only [wiped, withTag, succeeded, wipes.1, wipes.2, Bool.and_self, if_true]
  · have same : ¬ (context.withTag variant).Wipes := wipes
    have off : ¬ (context.clearPassword && context.wipeable) = true := by
      simpa [Wipes] using wipes
    rw [wiped_of_not_wipes same, succeeded, if_neg off]
    rfl

theorem output_succeeded_eq_tag (context : Context) (variant : Variant) :
    (context.succeeded variant).output = Hash.Argon2.tag variant context.inputs := by
  rw [← withTag_wiped, output_wiped, output_withTag]

theorem length_password_succeeded (context : Context) (variant : Variant) :
    (context.succeeded variant).password.length = context.password.length := by
  simp only [succeeded]
  split
  · exact List.length_replicate
  · rfl

end Context

namespace Scenario

variable {scenario : Scenario} {path : Text} {context : Context} {variant : Variant}
  {recording : Bool}

/-- A call that does not succeed comes to its own end, and nothing is written. -/
theorem keep_failed [Machine] (path : Text)
    (failed : (context.invoke variant recording scenario.allocator).result ≠ .ok Status.ok) :
    (scenario.keep context variant recording path).1 =
        (match (context.invoke variant recording scenario.allocator).result with
          | .ok status => .ok (context, status)
          | .error error => .error (.invocation error)) ∧
      (scenario.keep context variant recording path).2.files = scenario.files := by
  obtain ⟨same, unrecorded⟩ := Context.invoke_failed failed
  have answered := scenario.invoke_eq context variant recording
  cases result : (context.invoke variant recording scenario.allocator).result with
  | ok status =>
      rw [keep, run_settled answered result unrecorded, same]
      exact ⟨rfl, rfl⟩
  | error error =>
      rw [keep, run_settled_error answered result]
      exact ⟨rfl, rfl⟩

/-- Whether the file takes the record of the call, if the call has one. -/
def Accepts [Machine] (scenario : Scenario) (context : Context) (variant : Variant)
    (recording : Bool)
    (path : Text) : Prop :=
  ∀ record, (context.invoke variant recording scenario.allocator).record = some record →
    ∃ files, scenario.files.append path (Text.utf8 record) = .ok files

/-- A call that succeeds, and whose record is taken, goes on with what it has made of its
context. Either nothing was written, or one record. -/
theorem keep_succeeded [Machine]
    (done : (context.invoke variant recording scenario.allocator).result = .ok Status.ok)
    (accepts : scenario.Accepts context variant recording path) :
    (scenario.keep context variant recording path).1 =
        .ok (context.succeeded variant, Status.ok) ∧
      match (context.invoke variant recording scenario.allocator).record with
      | none => (scenario.keep context variant recording path).2.files = scenario.files
      | some record => scenario.files.append path (Text.utf8 record) =
          .ok (scenario.keep context variant recording path).2.files := by
  have answered := scenario.invoke_eq context variant recording
  obtain ⟨-, -, left⟩ := Context.invoke_succeeded done
  rw [Context.withTag_wiped] at left
  cases recorded : (context.invoke variant recording scenario.allocator).record with
  | none =>
      rw [keep, run_settled answered done recorded, left]
      exact ⟨rfl, rfl⟩
  | some record =>
      obtain ⟨files, written⟩ := accepts record recorded
      rw [keep, run_settled_recorded answered done recorded written, left]
      exact ⟨rfl, written⟩

/-- Unless it succeeds, a call changes nothing of its context, hands out no record and leaves
the files alone, whether it returns another status or cannot be made at all. If it succeeds
and its record is taken, the tag fills the output buffer, the password is zeros of the same
length if it is to be wiped and can be, and nothing else is different; the file has grown by
one record if the context asks for one that somebody takes, and otherwise not at all. -/
theorem keep_atomic [Machine] (scenario : Scenario) (context : Context) (variant : Variant)
    (recording : Bool) (path : Text) :
    let invocation := context.invoke variant recording scenario.allocator
    let ran := scenario.keep context variant recording path
    (invocation.result ≠ .ok Status.ok →
      invocation.context = context ∧ invocation.record = none ∧
      ran.2.files = scenario.files ∧
      ran.1 = match invocation.result with
        | .ok status => .ok (context, status)
        | .error error => .error (.invocation error)) ∧
    (invocation.result = .ok Status.ok → scenario.Accepts context variant recording path →
      ∃ finished,
        ran.1 = .ok (finished, Status.ok) ∧ invocation.context = finished ∧
        finished = { context with written := finished.written, password := finished.password } ∧
        finished.output = Hash.Argon2.tag variant context.inputs ∧
        finished.output.length = context.outputLength ∧
        finished.password =
          (if context.clearPassword && context.wipeable then Bytes.zeros context.password.length
          else context.password) ∧
        finished.password.length = context.password.length ∧
        if recording && context.printInternals then
          ∃ record, (context.withTag variant).record variant = .ok record ∧
            invocation.record = some record ∧
            scenario.files.append path (Text.utf8 record) = .ok ran.2.files
        else invocation.record = none ∧ ran.2.files = scenario.files) := by
  intro invocation ran
  constructor
  · intro failed
    obtain ⟨same, unrecorded⟩ := Context.invoke_failed failed
    obtain ⟨ended, kept⟩ := keep_failed path failed
    exact ⟨same, unrecorded, kept, ended⟩
  intro done accepts
  obtain ⟨ended, written⟩ := keep_succeeded done accepts
  obtain ⟨fits, -, left⟩ := Context.invoke_succeeded done
  have output := context.output_succeeded_eq_tag variant
  have shown := Context.record_succeeded done
  obtain ⟨record, recorded⟩ := (context.withTag variant).record_ok fits variant
  refine ⟨context.succeeded variant, ended, left.trans (context.withTag_wiped variant), rfl,
    output, ?_, rfl, context.length_password_succeeded variant, ?_⟩
  · rw [output, Hash.Argon2.length_tag]
    rfl
  cases asked : recording && context.printInternals with
  | true =>
      rw [asked, if_pos rfl, recorded] at shown
      rw [if_pos rfl]
      simp only [shown] at written
      exact ⟨record, recorded, shown, written⟩
  | false =>
      rw [asked, if_neg Bool.false_ne_true] at shown
      rw [if_neg Bool.false_ne_true]
      simp only [shown] at written
      exact ⟨shown, written⟩

attribute [local instance] Machine.workstation

/-- The test vector with a password to wipe, and without a pass. -/
def idleVector : Context :=
  { wipedVector with passes := 0 }

def wideVector : Context :=
  { wipedVector with memory := twoTo 32 }

/-- A call that is refused and one that cannot be made leave the password, one that succeeds
wipes it and adds its record to the file. -/
theorem vectors_kept_atomically :
    (idleVector.invoke .d true {}).result = .ok Status.passesTooFew ∧
    (writtenScenario.keep idleVector .d true "kat-argon2.log").1 =
      .ok (idleVector, Status.passesTooFew) ∧
    (writtenScenario.keep idleVector .d true "kat-argon2.log").2.files = writtenScenario.files ∧
    (writtenScenario.keep wideVector .i true "kat-argon2.log").1 =
      .error (.invocation (.range ⟨twoTo 32, .unsigned⟩)) ∧
    (wideVector.invoke .i true {}).context = wideVector ∧
    ∃ finished record,
      (writtenScenario.keep wipedVector .d true "kat-argon2.log").1 = .ok (finished, Status.ok) ∧
      finished.password = Bytes.zeros 32 ∧ finished.output.length = 32 ∧
      finished.salt = wipedVector.salt ∧
      (writtenScenario.keep wipedVector .d true "kat-argon2.log").2.files =
        writtenScenario.files.put ["kat-argon2.log"] (0x0a :: Text.utf8 record) := by
  have refused : (idleVector.invoke .d true {}).result = .ok Status.passesTooFew := rfl
  have unmarshalled : (wideVector.invoke .i true {}).result =
      .error (.range ⟨twoTo 32, .unsigned⟩) := rfl
  have succeeded : (wipedVector.invoke .d true {}).result = .ok Status.ok :=
    (keep_ok (keep_wipedVector .d)).1
  obtain ⟨-, -, unwritten, ended⟩ :=
    (keep_atomic writtenScenario idleVector .d true "kat-argon2.log").1
      (refused ▸ show Except.ok Status.passesTooFew ≠ .ok Status.ok by decide)
  obtain ⟨same, -, -, stopped⟩ :=
    (keep_atomic writtenScenario wideVector .i true "kat-argon2.log").1
      (unmarshalled ▸ nofun)
  obtain ⟨finished, done, -, fields, -, filled, wiped, -, written⟩ :=
    (keep_atomic writtenScenario wipedVector .d true "kat-argon2.log").2 succeeded
      fun record _ => ⟨_, append_writtenScenario _⟩
  obtain ⟨record, -, -, appended⟩ := written
  rw [append_writtenScenario] at appended
  refine ⟨refused, ended, unwritten, stopped, same, finished, record, done, wiped, filled, ?_,
    (Except.ok.inj appended).symm⟩
  rw [fields]

end Scenario

end Argon2Workbench
