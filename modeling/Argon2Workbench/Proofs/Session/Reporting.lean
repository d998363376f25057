import Argon2Workbench.Proofs.Phc
import Argon2Workbench.Proofs.Scenario.Steps
import Argon2Workbench.Proofs.Text.Lines
import Argon2Workbench.Session.Run

namespace Argon2Workbench

open Hash.Argon2 (Variant)
open Text (closed)

theorem Phc.newline_not_mem_text (hash : Phc) : '\n' ∉ hash.text.toList := by
  have name : '\n' ∉ variantName hash.variant := by
    cases hash.variant <;> decide
  have digits (value : Nat) : '\n' ∉ Nat.toDigits 10 value :=
    Text.not_mem_toDigits (by decide) value
  have symbols (bytes : Bytes) : '\n' ∉ bytes.base64 := Bytes.not_mem_base64 (by decide) bytes
  rw [toList_text]
  simp [fields, costTexts, List.intercalate, name, digits, symbols]

/-- The parts of a report, each closed by a line break. There may be line breaks in the fourth,
which holds the password as text. -/
def reportLines (context : Context) (variant : Variant) (password : Bytes)
    (seconds mebicycles : Binary64) (encoded : String) : List String :=
  [s!"Argon2{variant.letter} with",
   s!"\tt_cost = {context.passes}",
   s!"\tm_cost = {context.memory}",
   s!"\tpassword = {Text.Utf8.decodeReplacing password}",
   s!"\tsalt = {String.ofList context.salt.hex}",
   s!"{Decimal.fixed 3 seconds} seconds ({Decimal.fixed 3 mebicycles} mebicycles)",
   String.ofList context.output.hex,
   encoded]

section

variable (context : Context) (variant : Variant) (password : Bytes) (seconds mebicycles : Binary64)
  (encoded : String)

theorem reportText_eq_closed :
    reportText context variant password seconds mebicycles encoded =
      closed (reportLines context variant password seconds mebicycles encoded) := by
  have header : " with" ++ "\n" = " with\n" := by decide
  have timing : " mebicycles)" ++ "\n" = " mebicycles)\n" := by decide
  unfold reportText closed reportLines
  simp only [hexLine, List.map_cons, List.map_nil, String.join_cons, String.join_nil,
    String.append_assoc, ← header, ← timing]
  rfl

/-- Of the parts only the password can be more than one line. -/
theorem splitOn_reportText (plain : '\n' ∉ encoded.toList) :
    ∃ above, (reportText context variant password seconds mebicycles encoded).toList.splitOn '\n' =
      above ++ [context.output.hex, encoded.toList, []] := by
  have split := Text.splitOn_closed
    (reportLines context variant password seconds mebicycles encoded) []
  have tag : context.output.hex.splitOn '\n' = [context.output.hex] :=
    List.splitOn_eq_singleton (Bytes.not_mem_hex (by decide) _)
  have last : encoded.toList.splitOn '\n' = [encoded.toList] := List.splitOn_eq_singleton plain
  rw [← reportText_eq_closed, List.append_nil] at split
  refine ⟨((reportLines context variant password seconds mebicycles encoded).take 6).flatMap
    fun line => line.toList.splitOn '\n', ?_⟩
  rw [split]
  simp [reportLines, tag, last]

end

namespace Session

variable [Machine]

def reporting (context : Context) (variant : Variant) (password : Bytes)
    (seconds mebicycles : Binary64) (capacity : Int) : Host.Program Scenario.Run String := do
  let report ← Host.orFault .encoding
    (context.report variant password seconds mebicycles capacity)
  (Host.print report.text : Scenario.Run Unit)
  return report.encoded

/-- A run reports its context last of all. -/
theorem hash_eq_reporting (parameters : CommandLine.Parameters) (settings : Settings)
    (variant : Variant) (counter : CycleCounter) (password : Bytes) :
    (hash parameters settings variant counter password : Host.Program Scenario.Run Bytes) = do
      let startTime ← Host.readClock
      let startCycles ← Host.readCycles counter
      let context ← Host.orFault .context (request parameters password).build
      let (finished, status) ← Host.settled (Host.invoke context variant false) []
      let stopCycles ← Host.readCycles counter
      let stopTime ← Host.readClock
      Host.orFault .status (status.check variant)
      let mebicycles ← Host.orFault .conversion
        (Binary64.quotient (stopCycles - startCycles) (twoTo 20))
      let _ ← reporting finished variant password (stopTime.sub startTime) mebicycles
        settings.capacity
      return finished.output := by
  simp only [hash, reporting, bind_assoc, pure_bind]

section

variable {context : Context} {variant : Variant} {capacity : Int}

/-- Whether an encoded hash fits is all that a report can fail for. -/
theorem run_reporting (scenario : Scenario) (password : Bytes) (seconds mebicycles : Binary64) :
    scenario.run (reporting context variant password seconds mebicycles capacity) =
      match context.encode variant capacity with
      | .ok encoded => (.ok encoded, scenario.printed
          (reportText context variant password seconds mebicycles encoded))
      | .error error => (.error (.encoding error), scenario) := by
  rw [reporting, Context.report]
  cases context.encode variant capacity with
  | ok encoded => rfl
  | error error => rfl

end

end Session

attribute [local instance] Machine.workstation

end Argon2Workbench
