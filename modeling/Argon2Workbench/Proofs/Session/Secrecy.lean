import Argon2Workbench.Proofs.CommandLine.Veil
import Argon2Workbench.Proofs.Context.Secrecy
import Argon2Workbench.Proofs.Scenario.Lockstep
import Argon2Workbench.Proofs.Session.Report

/-! Sessions that differ in their passwords alone, step by step beside each other.

The programs are in lockstep up to the report of a run. Nothing else is made of a password,
and nothing follows the report.
-/

namespace Argon2Workbench

open CommandLine (Alike Asked Parameters Token)
open Hash.Argon2 (Status Variant)

namespace Scenario

/-- The same scenario, but for what was printed and for the password buffer. -/
inductive Sibling (scenario : Scenario) : Scenario → Prop where
  | mk (output : Text) (password : PasswordBuffer) :
      Sibling scenario { scenario with output, password }

variable {scenario twin : Scenario}

theorem Twin.sibling (twins : scenario.Twin twin) : scenario.Sibling twin := by
  cases twins with
  | mk password => exact .mk scenario.output password

theorem Twin.output (twins : scenario.Twin twin) : twin.output = scenario.output := by
  cases twins
  rfl

/-- A fault ends twins alike, whether it is reported or escapes. -/
theorem Twin.ended (twins : scenario.Twin twin) (fault : Fault) :
    ∃ outcome after otherAfter, scenario.ended (.error fault) = (outcome, after) ∧
      twin.ended (.error fault) = (outcome, otherAfter) ∧ after.Twin otherAfter := by
  cases twins with
  | mk password =>
      by_cases reported : fault.isReported = true
      · simp only [Scenario.ended, if_pos reported]
        exact ⟨_, _, _, rfl, rfl, .mk password⟩
      · simp only [Scenario.ended, if_neg reported]
        exact ⟨_, _, _, rfl, rfl, .mk password⟩

end Scenario

namespace Session

open Scenario (InStep)

/-- Two texts that begin alike and end in reports of runs, which differ in the password and
in the tag. -/
inductive ReportAlike (password otherPassword : Bytes) : Text → Text → Prop where
  | mk (earlier : Text) (hash : Phc) (tag : Bytes) (memory : Nat) (seconds mebicycles : Binary64) :
      ReportAlike password otherPassword
        (earlier ++ Text.ofString (runReport hash memory password seconds mebicycles))
        (earlier ++ Text.ofString
          (runReport { hash with tag } memory otherPassword seconds mebicycles))

/-- After two runs: all that differs is in their reports. -/
structure Told (password otherPassword : Bytes) (after other : Scenario) : Prop where
  siblings : after.Sibling other
  reports : ReportAlike password otherPassword after.output other.output

variable {scenario twin : Scenario} {password otherPassword : Bytes}

theorem Told.printed (twins : scenario.Twin twin) (hash : Phc) (tag : Bytes) (memory : Nat)
    (seconds mebicycles : Binary64) :
    Told password otherPassword
      (scenario.printed (Text.ofString (runReport hash memory password seconds mebicycles)))
      (twin.printed (Text.ofString
        (runReport { hash with tag } memory otherPassword seconds mebicycles))) := by
  cases twins with
  | mk buffer => exact ⟨.mk _ buffer, .mk scenario.output hash tag memory seconds mebicycles⟩

theorem Told.returned {after other : Scenario} (told : Told password otherPassword after other)
    (lent otherLent : Bytes) :
    Told password otherPassword (after.returned lent) (other.returned otherLent) := by
  refine ⟨?_, told.reports⟩
  cases told.siblings with
  | mk output buffer => exact .mk output _

/-- Both reports need the same room, and they differ in the password and the tag. -/
theorem report_resembling {context other : Context} (resembles : context.Resembles other)
    (salt : context.salt = Bytes.zeros 16) (variant : Variant) (seconds mebicycles : Binary64)
    (capacity : Int) :
    (∃ error, context.report variant password seconds mebicycles capacity = .error error ∧
        other.report variant otherPassword seconds mebicycles capacity = .error error) ∨
      ∃ hash otherHash : Phc, otherHash = { hash with tag := other.output } ∧
        context.report variant password seconds mebicycles capacity =
          .ok { text := runReport hash context.memory password seconds mebicycles
                encoded := hash.text } ∧
        other.report variant otherPassword seconds mebicycles capacity =
          .ok { text := runReport otherHash context.memory otherPassword seconds mebicycles
                encoded := otherHash.text } := by
  have length := resembles.length_text variant
  have hash := resembles.ofContext variant
  have memory : other.memory = context.memory := by
    obtain ⟨_, _, rfl⟩ := resembles.buffers
    rfl
  have otherSalt : other.salt = Bytes.zeros 16 := by
    obtain ⟨_, _, rfl⟩ := resembles.buffers
    exact salt
  simp only [Context.report, Context.encode, length]
  split
  · exact .inl ⟨_, rfl, rfl⟩
  · refine .inr ⟨Phc.ofContext context variant, Phc.ofContext other variant, hash, ?_, ?_⟩
    · rw [Except.map, reportText_eq_runReport salt]
    · rw [Except.map, reportText_eq_runReport otherSalt, memory]

section

variable {context : Context} (twins : scenario.Twin twin)
  (short : context.password.length < twoTo 32) (otherShort : otherPassword.length < twoTo 32)

include twins short otherShort

/-- A call with either password, and what follows it. -/
theorem settled_inStep [Machine] (filled : context.output.length = context.outputLength)
    (variant : Variant) :
    InStep
      (fun (answer other : Context × Status) after twin => answer.1.Resembles other.1 ∧
        answer.1.salt = context.salt ∧ other.2 = answer.2 ∧ after.Twin twin)
      (scenario.run (Host.settled (Host.invoke context variant false) []))
      (twin.run (Host.settled
        (Host.invoke { context with password := otherPassword } variant false) [])) := by
  cases twins with
  | mk buffer =>
      let invocation := context.invoke variant false scenario.allocator
      obtain ⟨finished, same⟩ : ∃ finished,
          ({ context with password := otherPassword } : Context).invoke variant false
            scenario.allocator = { invocation with context := finished } :=
        Context.invoke_password short otherShort
      have resembles : invocation.context.Resembles finished := by
        have called : invocation.context.Resembles _ :=
          (Context.Resembles.withPassword context otherPassword).invoke filled
        rwa [same] at called
      have salt : invocation.context.salt = context.salt := by
        obtain ⟨_, _, kept⟩ :=
          (Context.continues_invoke filled variant false scenario.allocator).buffers
        simp only [invocation, kept]
      have otherAnswered :
          Scenario.invoke { context with password := otherPassword } variant false
              { scenario with password := buffer } =
            ({ invocation with context := finished },
              { scenario with allocator := invocation.allocator, password := buffer }) := by
        simp only [Scenario.invoke, same]
      refine (InStep.settled rfl otherAnswered (.mk buffer)
        (Context.record_untaken context variant _) []).imp ?_
      rintro ⟨_, _⟩ ⟨_, _⟩ _ _ ⟨rfl, rfl, rfl, twins⟩
      exact ⟨resembles, salt, rfl, twins⟩

end

section

variable (parameters : Parameters) (settings : Settings)
  (short : password.length < twoTo 32) (otherShort : otherPassword.length < twoTo 32)

include short otherShort

theorem hash_inStep [Machine] (twins : scenario.Twin twin) (variant : Variant)
    (counter : CycleCounter) :
    InStep (fun _ _ => Told password otherPassword)
      (scenario.run (hash parameters settings variant counter password))
      (twin.run (hash parameters settings variant counter otherPassword)) := by
  refine .bind_same (.readClock twins) fun startTime _ _ twins => ?_
  refine .bind_same (.readCycles twins counter) fun startCycles _ _ twins => ?_
  -- The requests are built or turned down together. From here on each program has a context of
  -- its own, and they meet again in the reports.
  have rebuilt : (request parameters otherPassword).build =
      (request parameters password).build.map ({ · with password := otherPassword }) :=
    Request.build_password (request parameters password) otherPassword
  rw [rebuilt]
  cases built : (request parameters password).build with
  | error error => exact .failed _ twins
  | ok context =>
      obtain ⟨-, rfl⟩ := Request.violation?_of_build built
      rw [Except.map, Scenario.run_bind_ok _ (Scenario.run_orFault_ok _ _ _),
        Scenario.run_bind_ok _ (Scenario.run_orFault_ok _ _ _)]
      have filled := (request parameters password).length_output_context
      refine .bind (settled_inStep twins short otherShort filled variant) ?_
      rintro ⟨finished, _⟩ ⟨otherFinished, status⟩ _ _ ⟨resembles, salt, rfl, twins⟩
      refine .bind_same (.readCycles twins counter) fun stopCycles _ _ twins => ?_
      refine .bind_same (.readClock twins) fun stopTime _ _ twins => ?_
      refine .bind_same (.orFault twins _ (status.check variant)) fun _ _ _ twins => ?_
      refine .bind_same (.orFault twins _ _) fun mebicycles _ _ twins => ?_
      rcases report_resembling resembles salt variant (stopTime.sub startTime) mebicycles
        settings.capacity with
        ⟨error, refused, otherRefused⟩ | ⟨hash, _, rfl, reported, otherReported⟩
      · rw [refused, otherRefused]
        exact .failed _ twins
      · rw [reported, otherReported]
        exact .done (.printed twins hash _ _ _ _)

end

theorem variantOf_inStep (twins : scenario.Twin twin) (tag : Option Text) :
    InStep Scenario.Same (scenario.run (variantOf tag)) (twin.run (variantOf tag)) := by
  unfold variantOf
  split
  · exact .pure twins _
  · exact .throw twins _

theorem run_inStep [Machine] (parameters : Parameters) (settings : Settings) (other : Option Bytes)
    (short : (PasswordBuffer.source parameters.password).length < twoTo 32)
    (otherShort : (PasswordBuffer.source other).length < twoTo 32) :
    InStep
      (fun _ _ => Told (PasswordBuffer.source parameters.password) (PasswordBuffer.source other))
      (scenario.run (run parameters settings))
      (scenario.run (run { parameters with password := other } settings)) := by
  have twins := Scenario.Twin.refl scenario
  refine .bind_same (variantOf_inStep twins parameters.tag) fun variant _ _ twins => ?_
  refine .bind_same (.orFault twins _ _) fun counter _ _ twins => ?_
  exact .lending twins _ _
    (fun twins => hash_inStep parameters settings short otherShort twins variant counter)
    fun told => told.returned _ _

/-- Only a run looks at the password. -/
theorem perform_inStep [Machine] (scenario : Scenario) (settings : Settings)
    (grid : Except Grid.Error Grid)
    (parameters : Parameters) (other : Option Bytes)
    (short : (PasswordBuffer.source parameters.password).length < twoTo 32)
    (otherShort : (PasswordBuffer.source other).length < twoTo 32) :
    InStep
      (fun _ _ after otherAfter => otherAfter = after ∨ parameters.mode = .run ∧
        Told (PasswordBuffer.source parameters.password) (PasswordBuffer.source other)
          after otherAfter)
      (scenario.run (perform settings grid parameters))
      (scenario.run (perform settings grid { parameters with password := other })) := by
  cases mode : parameters.mode with
  | run =>
      simp only [perform, mode]
      exact .bind (run_inStep parameters settings other short otherShort) fun told =>
        .done (.inr ⟨trivial, told⟩)
  | generate =>
      simp only [perform, mode]
      exact .refl (fun _ _ => .inl rfl) _
  | benchmark =>
      simp only [perform, mode]
      exact .refl (fun _ _ => .inl rfl) _

section

variable [Machine]

variable {lookup : String → Option Text} {grid : Except Grid.Error Grid}
  {tokens others : List Token}

theorem mode_inStep (scenario : Scenario) (settings : Settings) (grid : Except Grid.Error Grid)
    (alike : Alike tokens others)
    (free : CommandLine.divider ∉ tokens) (otherFree : CommandLine.divider ∉ others)
    (received : ∀ token ∈ tokens, token.IsReceived)
    (otherReceived : ∀ token ∈ others, token.IsReceived)
    (short : (Asked.ofTokens tokens).password.length < twoTo 32)
    (otherShort : (Asked.ofTokens others).password.length < twoTo 32) :
    InStep
      (fun _ _ after otherAfter => otherAfter = after ∨
        (∃ parameters, Parameters.ofTokens tokens = .ok parameters ∧ parameters.mode = .run) ∧
          Told (Asked.ofTokens tokens).password (Asked.ofTokens others).password after otherAfter)
      (scenario.run (parameters tokens >>= perform settings grid))
      (scenario.run (parameters others >>= perform settings grid)) := by
  rcases Parameters.ofTokens_alike alike free otherFree received otherReceived with
    ⟨refusal, refused, otherRefused⟩ | ⟨parameters, password, accepted, otherAccepted⟩
  · rw [Scenario.run_bind_error _ (Scenario.run_parameters_refused refused),
      Scenario.run_bind_error _ (Scenario.run_parameters_refused otherRefused)]
    exact .failed _ (.refl _)
  · obtain ⟨-, -, -, -, -, asked⟩ := Parameters.eq_asked accepted
    obtain ⟨-, -, -, -, -, otherAsked⟩ := Parameters.eq_asked otherAccepted
    rw [Scenario.run_bind_ok _ (Scenario.run_parameters_accepted accepted),
      Scenario.run_bind_ok _ (Scenario.run_parameters_accepted otherAccepted), ← asked,
      ← otherAsked]
    have performed := perform_inStep (scenario.logged [parameters.log]) settings grid parameters
      password (asked ▸ short) (otherAsked ▸ otherShort)
    refine performed.imp ?_
    rintro _ _ _ _ (same | ⟨mode, told⟩)
    · exact .inl same
    · exact .inr ⟨⟨parameters, accepted, mode⟩, told⟩

/-- Both sessions have one outcome, and leave all but the password buffer and what was printed
alike. What was printed is the same, too, unless it is the report of a run. -/
def Indistinct (scenario : Scenario) (lookup : String → Option Text)
    (grid : Except Grid.Error Grid) (tokens others : List Token) : Prop :=
  ∃ outcome after otherAfter,
    scenario.run (program lookup grid tokens) = (outcome, after) ∧
    scenario.run (program lookup grid others) = (outcome, otherAfter) ∧
    after.Sibling otherAfter ∧
    (otherAfter.output = after.output ∨
      outcome = .ok 0 ∧
      (∃ parameters, Parameters.ofTokens tokens = .ok parameters ∧ parameters.mode = .run) ∧
      ReportAlike (Asked.ofTokens tokens).password (Asked.ofTokens others).password after.output
        otherAfter.output)

theorem Indistinct.same (outcome : Except Fault Nat) (after : Scenario)
    (ran : scenario.run (program lookup grid tokens) = (outcome, after))
    (otherRan : scenario.run (program lookup grid others) = (outcome, after)) :
    Indistinct scenario lookup grid tokens others :=
  ⟨outcome, after, after, ran, otherRan, (Scenario.Twin.refl after).sibling, .inl rfl⟩

/-- Command lines that differ in the values of passwords alone have sessions which only a
report tells apart, and neither a password nor a salt shows more than its length in the
summary of a context. Passwords have less than `2 ^ 32` bytes, as the algorithm asks. -/
theorem password_hidden (scenario : Scenario) (lookup : String → Option Text)
    (grid : Except Grid.Error Grid) (alike : Alike tokens others)
    (free : CommandLine.divider ∉ tokens) (otherFree : CommandLine.divider ∉ others)
    (received : ∀ token ∈ tokens, token.IsReceived)
    (otherReceived : ∀ token ∈ others, token.IsReceived)
    (short : (Asked.ofTokens tokens).password.length < twoTo 32)
    (otherShort : (Asked.ofTokens others).password.length < twoTo 32) :
    Indistinct scenario lookup grid tokens others ∧
      ∀ context other : Context, context.AlikeOutside other → other.summary = context.summary := by
  refine ⟨?_, fun _ _ => Context.AlikeOutside.summary⟩
  -- Without tokens both lines are one and the same, and neither holds a password.
  by_cases given : tokens = []
  · subst given
    cases alike
    exact .same _ _ rfl rfl
  have otherGiven : others ≠ [] := by
    rintro rfl
    cases alike
    contradiction
  rcases prepared : scenario.run (prepare lookup) with ⟨fault | settings, begun⟩
  · refine .same (.error fault) begun ?_ ?_
    · rw [program, Scenario.run_bind_error _ prepared]
    · rw [program, Scenario.run_bind_error _ prepared]
  have performed := mode_inStep begun settings grid alike free otherFree received otherReceived
    short otherShort
  rcases left : begun.run (parameters tokens >>= perform settings grid) with ⟨outcome, after⟩
  rcases right : begun.run (parameters others >>= perform settings grid) with ⟨other, otherAfter⟩
  have ran := Scenario.run_program given prepared left
  have otherRan := Scenario.run_program otherGiven prepared right
  rw [left, right] at performed
  cases performed with
  | done agree =>
      refine ⟨.ok 0, after, otherAfter, ran, otherRan, ?_⟩
      rcases agree with rfl | ⟨mode, told⟩
      · exact ⟨(Scenario.Twin.refl _).sibling, .inl rfl⟩
      · exact ⟨told.siblings, .inr ⟨rfl, mode, told.reports⟩⟩
  | failed fault twins =>
      obtain ⟨outcome, last, otherLast, ended, otherEnded, twins⟩ := twins.ended fault
      exact ⟨outcome, last, otherLast, ran.trans ended, otherRan.trans otherEnded, twins.sibling,
        .inl twins.output⟩

end

attribute [local instance] Machine.workstation

/-- One password looks like an option, the other like a mode. -/
theorem misleading_password_hidden :
    Indistinct stillScenario (fun _ => none) (.ok .standard) ["r", "-i", "-t"] ["r", "-i", "b"] ∧
      ∀ context other : Context, context.AlikeOutside other → other.summary = context.summary := by
  have alike : Alike ["r", "-i", "-t"] ["r", "-i", "b"] :=
    .single rfl (.password rfl "-t" "b" .empty)
  have received : ∀ token ∈ (["r", "-i", "-t"] : List Token), token.IsReceived := by
    unfold Text.IsReceived
    decide
  have otherReceived : ∀ token ∈ (["r", "-i", "b"] : List Token), token.IsReceived := by
    unfold Text.IsReceived
    decide
  have asked : (Asked.ofTokens ["r", "-i", "-t"]).password = [0x2d, 0x74] := by
    rfl
  have otherAsked : (Asked.ofTokens ["r", "-i", "b"]).password = [0x62] := by
    rfl
  refine password_hidden stillScenario _ _ alike (by decide) (by decide) received otherReceived
    ?_ ?_
  · rw [asked]
    decide
  · rw [otherAsked]
    decide

end Session

end Argon2Workbench
