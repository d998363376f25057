import Argon2Workbench.Proofs.Files
import Argon2Workbench.Proofs.Scenario.Recording
import Argon2Workbench.Proofs.Session.Program
import Argon2Workbench.Proofs.Session.Run

namespace Argon2Workbench.Session

open Hash.Argon2 (Status Variant)

section

variable {scenario : Scenario} {path : Text} {tag : Option Text} {variant : Variant}

theorem run_generate_unnamed [Machine] {callbacks : Callbacks} (unnamed : named? tag = none) :
    scenario.run (generate tag path callbacks) = (.error .unknownVariant, scenario) := by
  rw [generate, Scenario.run_bind_error _ (run_variantOf_unnamed unnamed)]

def vectorRecord (variant : Variant) : String :=
  (((Request.testVector .neither).context.withTag variant).record variant).toOption.getD ""

theorem record_testVector (variant : Variant) :
    ((Request.testVector .neither).context.withTag variant).record variant =
      .ok (vectorRecord variant) := by
  have fits : ((Request.testVector .neither).context.withTag variant).unmarshallable? = none :=
    Request.testVector_unmarshallable?
  obtain ⟨record, recorded⟩ := Context.record_ok fits variant
  rw [vectorRecord, recorded]
  rfl

theorem invoke_testVector [Machine] (variant : Variant) (allocator : Allocator) :
    (Request.testVector .neither).context.invoke variant true allocator =
      { result := .ok Status.ok
        context := ((Request.testVector .neither).context.withTag variant).wiped, allocator
        record := some (vectorRecord variant)
        log := (Request.testVector .neither).context.raisedLog variant } := by
  have done : (Request.testVector .neither).context.status allocator =
      (allocator, Status.ok, []) := by
    rw [Context.status_default rfl, Request.testVector_outcome]
  rw [Context.invoke_recorded Request.testVector_unmarshallable? done rfl
    (record_testVector variant), List.append_nil]

/-- Nothing but the record is in the file afterwards. -/
theorem run_generate_kept [Machine] {location : Location} (named : named? tag = some variant)
    (shut : Files.endsOpen path = false) (leads : scenario.files.LeadsTo path location) :
    ∃ after records,
      scenario.run (generate tag path .neither) =
        (.ok (Hash.Argon2.tag variant (Request.testVector .neither).context.inputs), after) ∧
      after.files = scenario.files.put location (Text.utf8 (vectorRecord variant)) ∧
      scenario.Writes after (announcement variant path) records ∧
      ∀ record ∈ records, record.level = .info := by
  let context := (Request.testVector .neither).context
  let announced := (scenario.cleared path).printed (announcement variant path)
  let called := announced.invoked context variant true
  let files := scenario.files.put location (Text.utf8 (vectorRecord variant))
  have answered := announced.invoke_eq context variant true
  rw [invoke_testVector] at answered
  have removed : called.files = scenario.files.erase location := Files.cleared_eq_erase leads
  have kept : called.files.append path (Text.utf8 (vectorRecord variant)) = .ok files := by
    rw [removed, Files.append_vacant shut (Files.find_erase leads), Files.put_erase]
  have settled := Scenario.run_settled_recorded answered rfl rfl kept
  have output : (context.withTag variant).wiped.output = Hash.Argon2.tag variant context.inputs := by
    rw [Context.output_wiped, Context.output_withTag]
  obtain ⟨noted, writesCleared, informed⟩ := Scenario.writes_cleared scenario path
  have writesCalled : announced.Writes called [] [] := by
    constructor <;> simp [called, Scenario.invoked]
  have writes := (writesCleared.trans (.printed _ (announcement variant path))).trans
    (writesCalled.trans ((Scenario.Writes.logged called (context.raisedLog variant)).trans
      (.refiled _ files)))
  simp only [List.nil_append, List.append_nil] at writes
  refine ⟨_, _, ?_, rfl, writes, ?_⟩
  · rw [generate, Scenario.run_bind_ok _ (run_variantOf named),
      Scenario.run_bind_ok _ (Scenario.run_removeStale (leads.holds shut).removable),
      Scenario.run_bind_ok _ (Scenario.run_print _ _), Request.build_testVector,
      Scenario.run_bind_ok _ (Scenario.run_orFault_ok _ _ _), Scenario.run_bind_ok _ settled]
    dsimp only
    rw [Status.check_ok, Scenario.run_bind_ok _ (Scenario.run_orFault_ok _ _ _), output]
    exact Scenario.run_pure _ _
  · intro record member
    rcases List.mem_append.mp member with early | late
    · exact informed record early
    · exact Context.level_raisedLog context variant record late

theorem run_generate [Machine] (named : named? tag = some variant)
    (holds : scenario.files.Holds path) :
    ∃ after records,
      scenario.run (generate tag path .neither) =
        (.ok (Hash.Argon2.tag variant (Request.testVector .neither).context.inputs), after) ∧
      scenario.Writes after (announcement variant path) records ∧
      ∀ record ∈ records, record.level = .info := by
  obtain ⟨location, leads⟩ := holds.leadsTo
  obtain ⟨after, records, ran, -, writes, informed⟩ := run_generate_kept named holds.1 leads
  exact ⟨after, records, ran, writes, informed⟩

end

end Argon2Workbench.Session
