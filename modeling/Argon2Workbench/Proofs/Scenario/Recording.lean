import Argon2Workbench.Proofs.Context.Record
import Argon2Workbench.Proofs.Files
import Argon2Workbench.Proofs.Scenario.Files
import Mathlib.Data.List.Basic

namespace Argon2Workbench.Scenario

open Context (recordEnding)
open Hash.Argon2 (Layout Status Variant)

variable {scenario : Scenario} {path : Text}

section

variable [Machine]

variable {context : Context} {variant : Variant} {recording : Bool}

def invoked (scenario : Scenario) (context : Context) (variant : Variant) (recording : Bool) :
    Scenario :=
  { scenario with allocator := (context.invoke variant recording scenario.allocator).allocator }

theorem invoke_eq (scenario : Scenario) (context : Context) (variant : Variant) (recording : Bool) :
    (Host.invoke context variant recording : Run Invocation) scenario =
      (context.invoke variant recording scenario.allocator,
        scenario.invoked context variant recording) :=
  rfl

def keep (scenario : Scenario) (context : Context) (variant : Variant) (recording : Bool)
    (path : Text) : Except Fault (Context × Status) × Scenario :=
  scenario.run (Host.settled (Host.invoke context variant recording) path)

/-- The ways in which a call ends: without a status, without a record, with a record that no
file takes, and with one at the end of the file. -/
inductive Concludes (scenario : Scenario) (context : Context) (variant : Variant) (recording : Bool)
    (path : Text) : Except Fault (Context × Status) × Scenario → Prop
  | failed {error : InvocationError}
      (result : (context.invoke variant recording scenario.allocator).result = .error error) :
      Concludes scenario context variant recording path (.error (.invocation error),
        (scenario.invoked context variant recording).logged
          (context.invoke variant recording scenario.allocator).log)
  | unrecorded {status : Status}
      (result : (context.invoke variant recording scenario.allocator).result = .ok status)
      (absent : (context.invoke variant recording scenario.allocator).record = none) :
      Concludes scenario context variant recording path
        (.ok ((context.invoke variant recording scenario.allocator).context, status),
        (scenario.invoked context variant recording).logged
          (context.invoke variant recording scenario.allocator).log)
  | unkept {record : String} {error : Files.Error}
      (result : (context.invoke variant recording scenario.allocator).result = .ok Status.ok)
      (made : (context.invoke variant recording scenario.allocator).record = some record)
      (refused : scenario.files.append path (Text.utf8 record) = .error error) :
      Concludes scenario context variant recording path (.error (.files error),
        (scenario.invoked context variant recording).logged
          (context.invoke variant recording scenario.allocator).log)
  | kept {record : String} {files : Files}
      (result : (context.invoke variant recording scenario.allocator).result = .ok Status.ok)
      (made : (context.invoke variant recording scenario.allocator).record = some record)
      (written : scenario.files.append path (Text.utf8 record) = .ok files) :
      Concludes scenario context variant recording path
        (.ok ((context.invoke variant recording scenario.allocator).context, Status.ok),
        ((scenario.invoked context variant recording).logged
          (context.invoke variant recording scenario.allocator).log).refiled files)

theorem keep_concludes (scenario : Scenario) (context : Context) (variant : Variant) (recording : Bool)
    (path : Text) :
    Concludes scenario context variant recording path
      (scenario.keep context variant recording path) := by
  have answered := scenario.invoke_eq context variant recording
  unfold keep
  cases result : (context.invoke variant recording scenario.allocator).result with
  | error error =>
      rw [run_settled_error answered result]
      exact .failed result
  | ok status =>
      cases recorded : (context.invoke variant recording scenario.allocator).record with
      | none =>
          rw [run_settled answered result recorded]
          exact .unrecorded result recorded
      | some record =>
          have succeeded := Context.succeeded_of_recorded recorded
          obtain rfl : status = Status.ok := Except.ok.inj (result.symm.trans succeeded)
          cases kept : scenario.files.append path (Text.utf8 record) with
          | error error =>
              rw [run_settled_unkept answered result recorded kept]
              exact .unkept result recorded kept
          | ok files =>
              rw [run_settled_recorded answered result recorded kept]
              exact .kept result recorded kept

/-- However a call ends, it has done nothing but go through the allocator, log, and write to
files. -/
theorem keep_left (scenario : Scenario) (context : Context) (variant : Variant)
    (recording : Bool) (path : Text) :
    ∃ log files, (scenario.keep context variant recording path).2 =
      ((scenario.invoked context variant recording).logged log).refiled files := by
  have concludes := scenario.keep_concludes context variant recording path
  generalize scenario.keep context variant recording path = ended at concludes ⊢
  cases concludes <;> exact ⟨_, _, rfl⟩

/-- A call that goes on has done so with the status that it returned. -/
theorem keep_ok {finished : Context} {status : Status}
    (ran : (scenario.keep context variant recording path).1 = .ok (finished, status)) :
    (context.invoke variant recording scenario.allocator).result = .ok status ∧
      (context.invoke variant recording scenario.allocator).context = finished := by
  have concludes := scenario.keep_concludes context variant recording path
  generalize scenario.keep context variant recording path = ended at concludes ran
  cases concludes with
  | failed | unkept => contradiction
  | unrecorded result | kept result =>
      cases ran
      exact ⟨result, rfl⟩

theorem files_keep_recorded {finished : Context} {status : Status} {record : String}
    (ran : (scenario.keep context variant recording path).1 = .ok (finished, status))
    (recorded : (context.invoke variant recording scenario.allocator).record = some record) :
    scenario.files.append path (Text.utf8 record) =
      .ok (scenario.keep context variant recording path).2.files := by
  have concludes := scenario.keep_concludes context variant recording path
  generalize scenario.keep context variant recording path = ended at concludes ran ⊢
  cases concludes with
  | failed | unkept => contradiction
  | unrecorded result absent =>
      rw [absent] at recorded
      contradiction
  | kept result made written =>
      obtain rfl := Option.some.inj (made.symm.trans recorded)
      exact written

/-- Without a success, without a request for it or without anybody to take it there is no
record, and where there is one that cannot be kept, nothing of it is. -/
theorem files_keep_unrecorded
    (unrecorded : (∀ finished,
        (scenario.keep context variant recording path).1 ≠ .ok (finished, Status.ok)) ∨
      recording = false ∨ context.printInternals = false) :
    (scenario.keep context variant recording path).2.files = scenario.files := by
  have concludes := scenario.keep_concludes context variant recording path
  generalize scenario.keep context variant recording path = ended at concludes unrecorded ⊢
  cases concludes with
  | failed | unrecorded | unkept => rfl
  | kept result made =>
      rw [Context.record_succeeded result] at made
      rcases unrecorded with unfinished | untaken | unasked
      · exact absurd rfl (unfinished _)
      · rw [untaken] at made
        contradiction
      · rw [unasked, Bool.and_false] at made
        contradiction

end

/-- A call that succeeds adds one record to the file, if its context asks for one and there
is a file to take it: the record of the password that the call was made with and of the tag
that it came to. The digest in it is the initial hash that the tag was computed from. -/
theorem keep_adds_true_record [Machine] (context : Context) (variant : Variant) :
    (context.Constructible → (∀ length ∈ context.lengths, length < twoTo 32) →
      context.effectiveMemory < twoTo 32 →
      context.prehash variant = .ok (context.inputs.initialHash variant) ∧
        (context.inputs.initialHash variant).length = 64) ∧
    ∀ (scenario : Scenario) (path : Text) (recording : Bool),
      let ran := scenario.keep context variant recording path
      let digest := context.inputs.initialHash variant
      let tag := Hash.Argon2.tag variant context.inputs
      (∀ finished, ran.1 = .ok (finished, Status.ok) →
        finished.output = tag ∧
        tag = (Layout.ofInputs variant context.inputs).tag context.outputLength digest ∧
        (recording = true → context.printInternals = true →
          context.prehash variant = .ok digest ∧
          ∃ record opening,
            ({ context with written := tag } : Context).record variant = .ok record ∧
            record = opening ++ recordEnding digest tag ∧
            scenario.files.append path (Text.utf8 record) = .ok ran.2.files)) ∧
      ((∀ finished, ran.1 ≠ .ok (finished, Status.ok)) ∨ recording = false ∨
        context.printInternals = false → ran.2.files = scenario.files) := by
  constructor
  · intro constructible lengths memory
    exact ⟨Context.prehash_ok (constructible.marshallable lengths memory) variant,
      context.inputs.length_initialHash variant⟩
  intro scenario path recording ran digest tag
  refine ⟨?_, files_keep_unrecorded⟩
  intro finished done
  obtain ⟨succeeded, left⟩ := keep_ok done
  obtain ⟨fits, -, -⟩ := Context.invoke_succeeded succeeded
  have output : finished.output = tag := by
    rw [← left]
    exact Context.output_succeeded succeeded
  refine ⟨output, Hash.Argon2.tag_eq_layout_tag variant context.inputs, ?_⟩
  intro taken asked
  obtain ⟨opening, recorded⟩ := Context.record_withTag fits variant
  have shown : (context.invoke variant recording scenario.allocator).record =
      some (opening ++ recordEnding digest tag) := by
    rw [Context.record_succeeded succeeded, taken, asked, recorded]
    rfl
  exact ⟨Context.prehash_ok fits variant, _, opening, recorded, rfl,
    files_keep_recorded done shown⟩

attribute [local instance] Machine.workstation

def wipedVector : Context :=
  { (Request.testVector .neither).context with clearPassword := true }

theorem wipedVector_constructible : wipedVector.Constructible :=
  ⟨{ Request.testVector .neither with clearPassword := true },
    Request.build_ok rfl (show 32 < Machine.memory by decide)⟩

def writtenScenario : Scenario :=
  { files := { contents := [(["kat-argon2.log"], [0x0a])] } }

theorem append_writtenScenario (bytes : Bytes) :
    writtenScenario.files.append "kat-argon2.log" bytes =
      .ok (writtenScenario.files.put ["kat-argon2.log"] (0x0a :: bytes)) := by
  have found : writtenScenario.files.find "kat-argon2.log" =
      .ok (.file ["kat-argon2.log"] [0x0a]) := by
    decide +kernel
  exact Files.append_file (by decide +kernel) found

theorem keep_wipedVector (variant : Variant) :
    (writtenScenario.keep wipedVector variant true "kat-argon2.log").1 =
      .ok ((wipedVector.withTag variant).wiped, Status.ok) := by
  have done : wipedVector.status writtenScenario.allocator =
      (writtenScenario.allocator, Status.ok, []) := by
    rw [Context.status_default rfl]
    rfl
  have fits : wipedVector.unmarshallable? = none := Request.testVector_unmarshallable?
  obtain ⟨record, recorded⟩ := (wipedVector.withTag variant).record_ok fits variant
  have call := Context.invoke_recorded fits done rfl recorded
  rw [keep, run_settled_recorded (writtenScenario.invoke_eq wipedVector variant true)
    (by rw [call]) (by rw [call]) (append_writtenScenario _), call]

/-- The line that is in the file stays, and the record shows a password that is wiped by
then. -/
theorem wipedVector_recorded :
    let ran := writtenScenario.keep wipedVector .d true "kat-argon2.log"
    ran.1 = .ok ((wipedVector.withTag .d).wiped, Status.ok) ∧
    (wipedVector.withTag .d).wiped.password = Bytes.zeros 32 ∧
    (wipedVector.inputs.initialHash .d).length = 64 ∧
    ∃ record, (wipedVector.withTag .d).record .d = .ok record ∧
      ran.2.files = writtenScenario.files.put ["kat-argon2.log"] (0x0a :: Text.utf8 record) ∧
      (writtenScenario.keep wipedVector .d false "kat-argon2.log").2.files =
        writtenScenario.files := by
  obtain ⟨hashed, kept⟩ := keep_adds_true_record wipedVector .d
  have ended := keep_wipedVector .d
  obtain ⟨-, -, recorded⟩ := (kept writtenScenario "kat-argon2.log" true).1 _ ended
  obtain ⟨-, record, opening, shown, -, written⟩ := recorded rfl rfl
  refine ⟨ended, rfl, (hashed wipedVector_constructible (by decide) (by decide)).2, record, shown,
    ?_, (kept writtenScenario "kat-argon2.log" false).2 (.inr (.inl rfl))⟩
  rw [append_writtenScenario] at written
  exact (Except.ok.inj written).symm

end Argon2Workbench.Scenario
