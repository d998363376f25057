import Argon2Workbench.Measure.Benchmark
import Argon2Workbench.Proofs.Scenario.Keeping
import Argon2Workbench.Session.Program

namespace Argon2Workbench

open Hash.Argon2 (Variant)

variable [Machine]

namespace Scenario

/-- Whatever the scenario and whatever becomes of the program, the files are as before. -/
abbrev KeepsFiles {Result : Type} (program : Host.Program Run Result) : Prop :=
  Keeps Scenario.files program

namespace KeepsFiles

theorem print (text : Text) : KeepsFiles (liftM (Host.print text : Run Unit)) :=
  .lift fun _ => rfl

theorem lending {Result : Type} {program : Host.Program Run Result} (password : Bytes)
    (kept : KeepsFiles program) : KeepsFiles (Host.lending password program) := by
  intro scenario
  rw [run_lending]
  exact kept _

theorem hash (parameters : CommandLine.Parameters) (settings : Settings) (variant : Variant)
    (counter : CycleCounter) (password : Bytes) :
    KeepsFiles (Session.hash parameters settings variant counter password) := by
  refine .bind (.readClock blind_files) fun startTime => ?_
  refine .bind (.readCycles blind_files counter) fun startCycles => ?_
  refine .bind (.orFault .context _) fun context => ?_
  refine .bind (.invoke blind_files context variant []) fun ⟨finished, status⟩ => ?_
  refine .bind (.readCycles blind_files counter) fun stopCycles => ?_
  refine .bind (.readClock blind_files) fun stopTime => ?_
  refine .bind (.orFault .status _) fun _ => ?_
  refine .bind (.orFault .conversion _) fun mebicycles => ?_
  refine .bind (.orFault .encoding _) fun report => ?_
  exact .bind (print report.text) fun _ => .pure finished.output

theorem run (parameters : CommandLine.Parameters) (settings : Settings) :
    KeepsFiles (Session.run parameters settings) := by
  refine .bind ?_ fun variant => ?_
  · rw [Session.variantOf]
    cases parameters.tag.bind fun tag => Variant.ofTag? tag.bytes with
    | some variant => exact .pure variant
    | none => exact .throw .unknownVariant
  refine .bind (.orFault .frequency _) fun counter => ?_
  exact lending _ (hash parameters settings variant counter _)

theorem sample (memory threads : Int) (counter : CycleCounter) :
    KeepsFiles (Measure.sample memory threads counter) := by
  refine .bind (.orFault .context _) fun context => ?_
  refine .bind (.readClock blind_files) fun startTime => ?_
  refine .bind (.readCycles blind_files counter) fun startCycles => ?_
  refine .bind (.measured blind_files context .d _) fun ⟨between, statusD⟩ => ?_
  refine .bind (.readCycles blind_files counter) fun middleCycles => ?_
  refine .bind (.measured blind_files between .i _) fun ⟨_, statusI⟩ => ?_
  refine .bind (.readCycles blind_files counter) fun stopCycles => ?_
  refine .bind (.readClock blind_files) fun stopTime => ?_
  refine .bind (.orFault .status _) fun _ => ?_
  exact .bind (.orFault .status _) fun _ => .pure _

theorem point (counter : CycleCounter) (reporting : Bool) (memory threads : Int) :
    KeepsFiles (Measure.point counter reporting memory threads) := by
  refine .bind (.noteWritten blind_files .debug _) fun _ => ?_
  refine .bind (sample memory threads counter) fun sample => ?_
  cases reporting with
  | false => exact .pure sample
  | true =>
      refine .bind (.orFault .sample _) fun report => ?_
      exact .bind (print report) fun _ => .pure sample

theorem benchmark (grid : Option Grid) (counter : CycleCounter) (reporting : Bool) :
    KeepsFiles (Measure.benchmark grid counter reporting) := by
  refine .bind (.note blind_files _) fun _ => ?_
  exact .mapM _ fun measured _ => point counter reporting measured.1 measured.2

end KeepsFiles

end Scenario

end Argon2Workbench
