import Argon2Workbench.Proofs.Scenario.Keeping
import Argon2Workbench.Proofs.Session.Run

namespace Argon2Workbench

open Hash.Argon2 (Variant)
open PasswordBuffer (Change)

namespace Scenario

variable {First Second : Type} {scenario : Scenario}

/-- The buffer keeps each of the contents that a use goes through. -/
theorem run_use [Machine] (changes : List Change) (outcome : Except Fault First)
    (scenario : Scenario) :
    ∃ contents past,
      scenario.run (Host.use changes outcome) =
        (outcome, { scenario with password := { contents, past } }) ∧
      past ++ [contents] = scenario.password.past ++
        changes.scanl Change.apply scenario.password.contents := by
  induction changes generalizing scenario with
  | nil => cases outcome <;> exact ⟨_, _, rfl, rfl⟩
  | cons change rest ih =>
      have changed := run_lift scenario (Host.revise fun contents => change.apply contents)
      obtain ⟨contents, past, ran, passed⟩ := ih _
      refine ⟨contents, past, ?_, passed.trans ?_⟩
      · rw [Host.use, run_bind_ok _ changed]
        exact ran
      · rw [List.scanl_cons]
        exact List.append_assoc ..

def heard (scenario : Scenario) : Text × PasswordBuffer :=
  (scenario.output, scenario.password)

theorem blind_heard : Blind heard :=
  fun _ _ _ _ _ _ _ _ => rfl

/-- The program leaves the password buffer alone, and if it fails it has printed nothing. -/
structure Silent (program : Host.Program Run First) : Prop where
  password : Keeps Scenario.password program
  output : ∀ (scenario : Scenario) (fault : Fault), (scenario.run program).1 = .error fault →
    (scenario.run program).2.output = scenario.output

namespace Silent

variable {program : Host.Program Run First} {next : First → Host.Program Run Second}

theorem bind (first : Keeps heard program) (rest : ∀ result, Silent (next result)) :
    Silent (program >>= next) := by
  constructor
  · exact .bind (fun scenario => congrArg Prod.snd (first scenario)) fun result =>
      (rest result).password
  · intro scenario fault failed
    have unheard := congrArg Prod.fst (first scenario)
    rcases ran : scenario.run program with ⟨stopped | result, between⟩ <;> rw [ran] at unheard
    · rw [run_bind_error _ ran]
      exact unheard
    · rw [run_bind_ok _ ran] at failed ⊢
      exact ((rest result).output between fault failed).trans unheard

theorem print [Machine] (text : Text) (result : First) :
    Silent (do (Host.print text : Run Unit); return result) := by
  constructor
  · exact .bind (.lift fun _ => rfl) fun _ => .pure result
  · intro scenario fault failed
    rw [run_bind_ok _ (run_print scenario text)] at failed
    contradiction

theorem hash [Machine] (parameters : CommandLine.Parameters) (settings : Settings)
    (variant : Variant)
    (counter : CycleCounter) (password : Bytes) :
    Silent (Session.hash parameters settings variant counter password) := by
  refine .bind (.readClock blind_heard) fun startTime => ?_
  refine .bind (.readCycles blind_heard counter) fun startCycles => ?_
  refine .bind (.orFault .context _) fun context => ?_
  refine .bind (.invoke blind_heard context variant []) fun ⟨finished, status⟩ => ?_
  refine .bind (.readCycles blind_heard counter) fun stopCycles => ?_
  refine .bind (.readClock blind_heard) fun stopTime => ?_
  refine .bind (.orFault .status _) fun _ => ?_
  refine .bind (.orFault .conversion _) fun mebicycles => ?_
  exact .bind (.orFault .encoding _) fun report => print report.text finished.output

end Silent

end Scenario

namespace Session

variable {scenario : Scenario} {parameters : CommandLine.Parameters} {settings : Settings}
  {variant : Variant} {counter : CycleCounter}

/-- Once it is filled, the buffer of a run holds the password, then zeros, and then nothing, in
whatever way the run ends. -/
theorem password_run [Machine] (named : named? parameters.tag = some variant)
    (built : CycleCounter.build settings.gigahertz = .ok counter) :
    let source := PasswordBuffer.source parameters.password
    (scenario.run (run parameters settings)).2.password =
      { contents := [], past := [source, Bytes.zeros source.length] } := by
  intro source
  have kept := (Scenario.Silent.hash parameters settings variant counter source).password
    (scenario.lent source)
  rw [run_lent named built rfl]
  exact congrArg (fun buffer => (buffer.replace (Bytes.zeros source.length)).replace []) kept

/-- A run that fails has printed nothing, wherever it has stopped. -/
theorem output_run_failed [Machine] {fault : Fault}
    (failed : (scenario.run (run parameters settings)).1 = .error fault) :
    (scenario.run (run parameters settings)).2.output = scenario.output := by
  cases named : named? parameters.tag with
  | none => rw [run_unnamed named]
  | some variant =>
      cases built : CycleCounter.build settings.gigahertz with
      | error error => rw [run_unrated named built]
      | ok counter =>
          rw [run_lent named built rfl] at failed ⊢
          exact (Scenario.Silent.hash parameters settings variant counter _).output _ fault failed

/-- Whatever is done to a password buffer, and however that ends, the end is passed on, and the
buffer is overwritten with zeros and emptied. In a run this is so as soon as there is a buffer,
and whatever the run fails for, it has printed nothing. -/
theorem password_released [Machine] :
    (∀ (Result : Type) (password : Option Bytes) (changes : List Change)
        (outcome : Except Fault Result) (scenario : Scenario),
      let source := PasswordBuffer.source password
      scenario.run (Host.lending source (Host.use changes outcome)) =
        (outcome,
         { scenario with
           password.contents := []
           password.past := changes.scanl Change.apply source ++ [Bytes.zeros source.length] })) ∧
    (∀ (Result : Type) (password : Bytes) (program : Host.Program Scenario.Run Result)
        (scenario : Scenario),
      let ran := { scenario with password := .fill password }.run program
      scenario.run (Host.lending password program) =
        (ran.1,
         { ran.2 with
           password.contents := []
           password.past := ran.2.password.past ++
             [ran.2.password.contents, Bytes.zeros password.length] })) ∧
    ∀ (scenario : Scenario) (parameters : CommandLine.Parameters) (settings : Settings),
      let source := PasswordBuffer.source parameters.password
      let ran := scenario.run (run parameters settings)
      (∀ variant counter, named? parameters.tag = some variant →
        CycleCounter.build settings.gigahertz = .ok counter →
          ran.2.password = { contents := [], past := [source, Bytes.zeros source.length] }) ∧
      (scenario.password.contents = [] → ran.2.password.contents = []) ∧
      ∀ fault, ran.1 = .error fault → ran.2.output = scenario.output := by
  refine ⟨fun Result password changes outcome scenario => ?_,
    fun Result password program scenario => ?_,
    fun scenario parameters settings => ⟨fun variant counter => password_run, fun empty => ?_,
      fun fault => output_run_failed⟩⟩
  · intro source
    obtain ⟨contents, past, ran, passed⟩ :=
      Scenario.run_use changes outcome (scenario.lent source)
    rw [Scenario.run_lending, ran]
    simp only [Scenario.returned, PasswordBuffer.replace, passed]
    rfl
  · simp only [Scenario.run_lending, Scenario.returned, PasswordBuffer.replace,
      List.append_assoc]
    rfl
  · cases named : named? parameters.tag with
    | none => rw [run_unnamed named]; exact empty
    | some variant =>
        cases built : CycleCounter.build settings.gigahertz with
        | error error => rw [run_unrated named built]; exact empty
        | ok counter => rw [password_run named built]

attribute [local instance] Machine.workstation

/-- A longer password and then a shorter one, up to an error, and a run whose clock cannot be
read. -/
theorem shorter_password_released :
    let used := Scenario.run {} (Host.lending [0x70, 0x77]
      (Host.use [.append [0x21], .replace [0x2a]] (.error .unknownVariant : Except Fault Unit)))
    used.1 = .error .unknownVariant ∧
    used.2.password =
      { contents := [], past := [[0x70, 0x77], [0x70, 0x77, 0x21], [0x2a], [0, 0]] } ∧
    (Scenario.run {} (run {} {})).1 = .error .seriesEnded ∧
    (Scenario.run {} (run {} {})).2.password =
      { contents := [], past := [Text.utf8 defaultPassword, [0, 0, 0, 0, 0, 0, 0, 0]] } ∧
    (Scenario.run {} (run {} {})).2.output = [] := by
  obtain ⟨uses, -, runs⟩ := password_released
  have used := uses Unit (some [0x70, 0x77]) [.append [0x21], .replace [0x2a]]
    (.error .unknownVariant) {}
  obtain ⟨buffer, -, silent⟩ := runs {} {} {}
  have built : CycleCounter.build ({} : Settings).gigahertz = .ok CycleCounter.steady :=
    CycleCounter.build_steady "kat-argon2.log"
  have ended : (Scenario.run {} (run {} {})).1 = .error .seriesEnded := by
    rw [run_lent rfl built rfl]
    rfl
  exact ⟨congrArg Prod.fst used, congrArg (·.2.password) used, ended, buffer .i _ rfl built,
    silent _ ended⟩

end Session

end Argon2Workbench
