import Argon2Workbench.Proofs.Scenario.Files
import Argon2Workbench.Proofs.Session.Program
import Argon2Workbench.Proofs.Session.Report
import Argon2Workbench.Proofs.Session.Vectors

/-! The file of known answers, from one session to the next.

Every session removes it before anything else, and only one that generates writes it again.
What is in it can therefore be told from the last command line alone.
-/

namespace Argon2Workbench

open CommandLine (Parameters Token)
open Hash.Argon2 (Variant)

theorem Hash.Argon2.Variant.ofTag?_eq_some_iff {tag : Bytes} {variant : Variant} :
    ofTag? tag = some variant ↔ tag = Text.utf8 variant.letter := by
  have letters : Text.utf8 (Variant.letter .d) = [0x64] ∧ Text.utf8 (Variant.letter .i) = [0x69] :=
    ⟨rfl, rfl⟩
  unfold ofTag?
  split
  · cases variant <;> simp_all
  split
  · cases variant <;> simp_all
  · cases variant <;> simp_all

namespace Session

/-- The command line is read without an error, and asks for the record of the variant. -/
def Generates (tokens : List Token) (variant : Variant) : Prop :=
  ∃ parameters tag, Parameters.ofTokens tokens = .ok parameters ∧ parameters.mode = .generate ∧
    parameters.tag = some tag ∧ tag.bytes = Text.utf8 variant.letter

def generated? (tokens : List Token) : Option Variant :=
  match Parameters.ofTokens tokens with
  | .ok parameters => if parameters.mode = .generate then named? parameters.tag else none
  | .error _ => none

theorem named?_eq_some_iff {tag : Option Text} {variant : Variant} :
    named? tag = some variant ↔ ∃ text, tag = some text ∧ text.bytes = Text.utf8 variant.letter := by
  cases tag with
  | none => simp [named?]
  | some text => simp [named?, Hash.Argon2.Variant.ofTag?_eq_some_iff]

theorem generated?_eq_some_iff {tokens : List Token} {variant : Variant} :
    generated? tokens = some variant ↔ Generates tokens variant := by
  unfold generated? Generates
  cases Parameters.ofTokens tokens with
  | error refusal => simp
  | ok parameters =>
      by_cases mode : parameters.mode = .generate
      · simp [mode, named?_eq_some_iff]
      · simp [mode]

theorem keepsFiles_perform [Machine] {settings : Settings} {grid : Except Grid.Error Grid}
    {parameters : Parameters}
    (idle : parameters.mode = .generate → named? parameters.tag = none) :
    Scenario.KeepsFiles (perform settings grid parameters) := by
  unfold perform
  cases mode : parameters.mode with
  | benchmark =>
      refine .bind (.orFault .frequency _) fun counter => ?_
      refine .bind (.orFault .grid grid) fun grid => ?_
      exact .bind (Scenario.KeepsFiles.benchmark (some grid) counter true) fun _ => .pure ()
  | generate =>
      intro scenario
      dsimp only
      rw [Scenario.run_bind_error _ (run_generate_unnamed (idle mode))]
  | run => exact .bind (Scenario.KeepsFiles.run parameters settings) fun _ => .pure ()

theorem files_ended (after : Scenario) (outcome : Except Fault Unit) :
    (after.ended outcome).2.files = after.files := by
  cases outcome with
  | ok => rfl
  | error fault =>
      rw [Scenario.ended]
      split <;> rfl

section

variable [Machine]

variable {lookup : String → Option Text} {grid : Except Grid.Error Grid} {path : Text}
  {location : Location}
  (settings : Settings.ofEnvironment lookup = .ok { recordPath := path })
  (shut : Files.endsOpen path = false)

def left (lookup : String → Option Text) (grid : Except Grid.Error Grid) (scenario : Scenario)
    (tokens : List Token) : Scenario :=
  (scenario.run (program lookup grid tokens)).2

def sessions (lookup : String → Option Text) (grid : Except Grid.Error Grid)
    (scenario : Scenario) (lines : List (List Token)) : Scenario :=
  lines.foldl (left lookup grid) scenario

include settings shut

variable {scenario : Scenario} (leads : scenario.files.LeadsTo path location)

include leads

theorem files_left_refused {tokens : List Token} {refusal : CommandLine.Refusal}
    (given : tokens ≠ []) (refused : Parameters.ofTokens tokens = .error refusal) :
    (left lookup grid scenario tokens).files = scenario.files.cleared path := by
  rw [left, Scenario.run_program_refused settings (leads.holds shut).removable given refused,
    files_ended]
  rfl

theorem files_left_kept {tokens : List Token} {parameters : Parameters} (given : tokens ≠ [])
    (accepted : Parameters.ofTokens tokens = .ok parameters)
    (idle : parameters.mode = .generate → named? parameters.tag = none) :
    (left lookup grid scenario tokens).files = scenario.files.cleared path := by
  let performing := (scenario.begun path).logged [parameters.log]
  have kept : (performing.run (perform { recordPath := path } grid parameters)).2.files =
      scenario.files.cleared path := keepsFiles_perform idle performing
  rcases performed : performing.run (perform { recordPath := path } grid parameters) with
    ⟨outcome, after⟩
  rw [performed] at kept
  rw [left, Scenario.run_program_accepted settings (leads.holds shut).removable given accepted
    performed, files_ended, kept]

theorem files_left_generated {tokens : List Token} {parameters : Parameters} {variant : Variant}
    (given : tokens ≠ []) (accepted : Parameters.ofTokens tokens = .ok parameters)
    (mode : parameters.mode = .generate) (named : named? parameters.tag = some variant) :
    (left lookup grid scenario tokens).files =
      scenario.files.put location (Text.utf8 (vectorRecord variant)) := by
  have cleared : ((scenario.begun path).logged [parameters.log]).files =
      scenario.files.erase location := Files.cleared_eq_erase leads
  have again : ((scenario.begun path).logged [parameters.log]).files.LeadsTo path location := by
    rw [cleared]
    exact leads.agree rfl
  obtain ⟨after, records, generated, files, -⟩ :=
    run_generate_kept named shut again
  rw [left, Scenario.run_program_accepted settings (leads.holds shut).removable given accepted
    (Scenario.run_perform_generate mode generated), files_ended, files, cleared, Files.put_erase]

/-- The file of an earlier session is gone after every other, and a new one is there after
those that generate. -/
theorem files_left (tokens : List Token) :
    (left lookup grid scenario tokens).files =
      match generated? tokens with
      | some variant => scenario.files.put location (Text.utf8 (vectorRecord variant))
      | none => scenario.files.erase location := by
  have cleared := Files.cleared_eq_erase leads
  by_cases given : tokens = []
  · subst given
    rw [left, Scenario.run_program_empty settings (leads.holds shut).removable]
    exact cleared
  unfold generated?
  cases read : Parameters.ofTokens tokens with
  | error refusal => exact (files_left_refused settings shut leads given read).trans cleared
  | ok parameters =>
      by_cases mode : parameters.mode = .generate
      · dsimp only
        rw [if_pos mode]
        cases named : named? parameters.tag with
        | some variant => exact files_left_generated settings shut leads given read mode named
        | none =>
            exact (files_left_kept settings shut leads given read fun _ => named).trans cleared
      · dsimp only
        rw [if_neg mode]
        exact (files_left_kept settings shut leads given read (absurd · mode)).trans cleared

/-- Beside the place of the file a session changes nothing. -/
theorem erase_left (tokens : List Token) :
    (left lookup grid scenario tokens).files.erase location = scenario.files.erase location := by
  rw [files_left settings shut leads]
  split
  · exact Files.erase_put ..
  · exact Files.erase_erase ..

theorem leadsTo_left (tokens : List Token) :
    (left lookup grid scenario tokens).files.LeadsTo path location := by
  refine leads.agree ?_
  rw [files_left settings shut leads]
  split <;> rfl

theorem files_sessions (lines : List (List Token)) :
    (sessions lookup grid scenario lines).files.erase location = scenario.files.erase location ∧
      (sessions lookup grid scenario lines).files.LeadsTo path location := by
  -- What a session leaves at the place itself is forgotten by erasing it, so the files apart
  -- from that place are the invariant.
  induction lines generalizing scenario with
  | nil => exact ⟨rfl, leads⟩
  | cons tokens rest ih =>
      have first : (left lookup grid scenario tokens).files.erase location =
          scenario.files.erase location := erase_left settings shut leads tokens
      obtain ⟨erased, leadsAfter⟩ := ih (leadsTo_left settings shut leads tokens)
      exact ⟨erased.trans first, leadsAfter⟩

theorem files_sessions_last (earlier : List (List Token)) (tokens : List Token) :
    (sessions lookup grid scenario (earlier ++ [tokens])).files =
      (left lookup grid scenario tokens).files := by
  let between := sessions lookup grid scenario earlier
  have last : sessions lookup grid scenario (earlier ++ [tokens]) =
      left lookup grid between tokens := by
    simp only [between, sessions, List.foldl_append, List.foldl_cons, List.foldl_nil]
  obtain ⟨erased, leadsAfter⟩ : between.files.erase location = scenario.files.erase location ∧
      between.files.LeadsTo path location := files_sessions settings shut leads earlier
  rw [last, files_left settings shut leadsAfter, files_left settings shut leads]
  split
  · rw [← Files.put_erase, erased, Files.put_erase]
  · exact erased

theorem read_left_generated {tokens : List Token} {variant : Variant}
    (generated : generated? tokens = some variant) :
    (left lookup grid scenario tokens).files.read path =
      .ok (Text.utf8 (vectorRecord variant)) := by
  rw [files_left settings shut leads, generated]
  exact Files.read_file shut (Files.find_put leads _)

theorem find_left_vacant {tokens : List Token} (idle : generated? tokens = none) :
    (left lookup grid scenario tokens).files.find path = .ok (.vacant location) := by
  rw [files_left settings shut leads, idle]
  exact Files.find_erase leads

theorem lookup_left_other {other : Location} (apart : other ≠ location) (tokens : List Token) :
    (left lookup grid scenario tokens).files.contents.lookup other =
      scenario.files.contents.lookup other := by
  rw [files_left settings shut leads]
  split
  · exact scenario.files.lookup_put_other apart _
  · exact scenario.files.lookup_erase_other apart

end

/-- Whatever sessions there were, after the last one there is no file of known answers, unless
that session has generated it. Then the record of the variant is all that is in it. Every other
file is as it was before the first session. -/
theorem sessions_leave_last_record [Machine] {lookup : String → Option Text} {path : Text}
    {scenario : Scenario} (settings : Settings.ofEnvironment lookup = .ok { recordPath := path })
    (holds : scenario.files.Holds path) (grid : Except Grid.Error Grid)
    (earlier : List (List Token)) (tokens : List Token) :
    let after := sessions lookup grid scenario (earlier ++ [tokens])
    ∃ location, scenario.files.LeadsTo path location ∧
      (∀ variant, Generates tokens variant →
        ∃ record, ((Request.testVector .neither).context.withTag variant).record variant =
            .ok record ∧
          after.files.read path = .ok (Text.utf8 record)) ∧
      ((∀ variant, ¬ Generates tokens variant) →
        after.files.find path = .ok (.vacant location)) ∧
      after.files = (left lookup grid scenario tokens).files ∧
      after.files.directories = scenario.files.directories ∧
      ∀ other, other ≠ location →
        after.files.contents.lookup other = scenario.files.contents.lookup other := by
  intro after
  have shut := holds.1
  obtain ⟨location, leads⟩ := holds.leadsTo
  have last : after.files = (left lookup grid scenario tokens).files :=
    files_sessions_last settings shut leads earlier tokens
  rw [last]
  refine ⟨location, leads, ?_, ?_, rfl, ?_, ?_⟩
  · intro variant generates
    have generated := generated?_eq_some_iff.mpr generates
    exact ⟨vectorRecord variant, record_testVector variant,
      read_left_generated settings shut leads generated⟩
  · intro idle
    have absent : generated? tokens = none := by
      rw [Option.eq_none_iff_forall_ne_some]
      exact fun variant generated => idle variant (generated?_eq_some_iff.mp generated)
    exact find_left_vacant settings shut leads absent
  · rw [files_left settings shut leads]
    split <;> rfl
  · intro other apart
    exact lookup_left_other settings shut leads apart tokens

attribute [local instance] Machine.workstation

/-- A file of an earlier time is where the record belongs, beside another one. -/
def staleScenario : Scenario :=
  { files := { contents := [(["kat-argon2.log"], [0x0a]), (["notes"], [0x0b])] } }

theorem staleScenario_holds : staleScenario.files.Holds "kat-argon2.log" :=
  ⟨by decide +kernel, ["kat-argon2.log"], .inr ⟨[0x0a], by decide +kernel⟩⟩

def recordTokens (tag : Token) : List Token :=
  ["g", "-y", tag, "-t", "-7"]

theorem recordTokens_generates : Generates (recordTokens "i") .i := by
  have accepted : Parameters.ofTokens (recordTokens "i") =
      .ok { mode := .generate, passes := 16777209 } := by
    decide +kernel
  exact ⟨_, "i", accepted, rfl, rfl, rfl⟩

theorem recordTokens_unnamed (variant : Variant) : ¬ Generates (recordTokens "x") variant := by
  have idle : generated? (recordTokens "x") = none := by
    decide +kernel
  rw [← generated?_eq_some_iff, idle]
  exact nofun

theorem staleScenario_sessions :
    let after (lines : List (List Token)) :=
      (sessions (fun _ => none) (.ok .standard) staleScenario lines).files
    (∃ record, ((Request.testVector .neither).context.withTag .i).record .i = .ok record ∧
      (after [["b"], recordTokens "x", recordTokens "i"]).read "kat-argon2.log" =
        .ok (Text.utf8 record)) ∧
    ∃ location, (after [recordTokens "i", recordTokens "x"]).find "kat-argon2.log" =
      .ok (.vacant location) := by
  intro after
  obtain ⟨_, -, recorded, -⟩ := sessions_leave_last_record settings_default staleScenario_holds
    (.ok .standard) [["b"], recordTokens "x"] (recordTokens "i")
  obtain ⟨location, -, -, vacant, -⟩ := sessions_leave_last_record settings_default
    staleScenario_holds (.ok .standard) [recordTokens "i"] (recordTokens "x")
  exact ⟨recorded .i recordTokens_generates, location, vacant recordTokens_unnamed⟩

end Session

end Argon2Workbench
