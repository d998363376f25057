import Argon2Workbench.Proofs.CommandLine.Passes
import Argon2Workbench.Proofs.Text.Received

namespace Argon2Workbench.CommandLine

variable {tokens : List Token} {token : Token} {parameter : Parameter} {text : Text}

namespace Line

theorem setting_of_last? {line : Line} (last : line.last? parameter = some text) :
    .setting parameter text ∈ line := by
  obtain ⟨before, after, split, -⟩ := List.lookup_eq_some_iff.mp last
  have member : (parameter, text) ∈ (line.filterMap Item.setting?).reverse := by
    rw [split]
    exact List.mem_append_right _ List.mem_cons_self
  obtain ⟨item, inLine, setting⟩ := List.mem_filterMap.mp (List.mem_reverse.mp member)
  cases item <;> simp [Item.setting?] at setting
  obtain ⟨rfl, rfl⟩ := setting
  exact inLine

theorem suffix_of_setting (setting : .setting parameter text ∈ ofTokens tokens) :
    ∃ token ∈ tokens, text <:+ token := by
  have alone : ∀ token, .setting parameter text = Item.ofToken token → text <:+ token := by
    intro token same
    cases carried : Parameter.carried? token with
    | none => simp [Item.ofToken, carried] at same
    | some found =>
        rw [Item.ofToken, carried, Item.setting.injEq] at same
        obtain ⟨rfl, rfl⟩ := same
        exact (carries_of_attached? (carried?_eq_attached? token ▸ carried)).suffix
  fun_induction ofTokens tokens with
  | case1 => contradiction
  | case2 token other named => simp at setting
  | case3 token named => exact ⟨token, by simp, alone token (List.mem_singleton.mp setting)⟩
  | case4 token value rest other named ih =>
      rcases List.mem_cons.mp setting with same | later
      · obtain ⟨rfl, rfl⟩ := Item.setting.inj same
        exact ⟨text, by simp, List.suffix_refl text⟩
      · obtain ⟨token, member, suffix⟩ := ih later
        exact ⟨token, .tail _ (.tail _ member), suffix⟩
  | case5 token value rest named ih =>
      rcases List.mem_cons.mp setting with same | later
      · exact ⟨token, by simp, alone token same⟩
      · obtain ⟨token, member, suffix⟩ := ih later
        exact ⟨token, .tail _ member, suffix⟩

theorem Undivided.kept_last (undivided : Undivided tokens)
    (last : (ofTokens tokens).last? parameter = some text) :
    Parameters.kept text = some text := by
  have other : text ≠ divider := by
    rintro rfl
    exact undivided.2 parameter (setting_of_last? last)
  exact if_neg other

end Line

def Line.reading (line : Line) : Reading :=
  { given := line.settings, modes := line.operands }

theorem Line.Undivided.numeric (undivided : Line.Undivided tokens) (parameter : Parameter)
    (wrap : Int → Nat) (default : Nat) :
    Parameters.numeric (Line.ofTokens tokens).reading parameter wrap default =
      match (Line.ofTokens tokens).misread? parameter with
      | some (other, text) => .error (.notANumber other.label text)
      | none => .ok (((Line.ofTokens tokens).integer parameter).elim default wrap) := by
  have same : (Line.ofTokens tokens).reading.value? parameter =
      (Line.ofTokens tokens).last? parameter := rfl
  cases last : (Line.ofTokens tokens).last? parameter with
  | none => simp [Parameters.numeric, same, last, Line.misread?, Line.integer]
  | some text =>
      have kept := undivided.kept_last last
      cases whole : integer? text with
      | none =>
          simp [Parameters.numeric, same, last, kept, Parameters.shown, Parameters.number, whole,
            Line.misread?, Except.map]
      | some number =>
          simp [Parameters.numeric, same, last, kept, Parameters.shown, Parameters.number, whole,
            Line.misread?, Line.integer, Except.map]

namespace Line

def Orderly (line : Line) : Prop :=
  line.unfinished? = none ∧ ∀ operand ∈ line.operands, operand ∈ modeLetters

def modeOfLetter (letter : Token) : Mode :=
  if letter = Text.ofString "b" then .benchmark
  else if letter = Text.ofString "g" then .generate
  else .run

theorem modeOf_letter (letter : token ∈ modeLetters) :
    Parameters.modeOf token = .ok (modeOfLetter token) := by
  simp only [modeLetters, List.mem_cons, List.not_mem_nil, or_false] at letter
  rcases letter with rfl | rfl | rfl <;> rfl

theorem modeOf_other (other : token ∉ modeLetters) :
    Parameters.modeOf token = .error (.unexpected token) := by
  have unknown : Mode.ofToken? token = none := by
    refine List.find?_eq_none.mpr fun mode _ same => other ?_
    have named : token = Text.ofString mode.letter := by simpa using same
    rw [named]
    cases mode <;> decide
  simp [Parameters.modeOf, unknown]

theorem mapM_modeOf_letters {operands : List Token}
    (letters : ∀ operand ∈ operands, operand ∈ modeLetters) :
    operands.mapM Parameters.modeOf = .ok (operands.map modeOfLetter) := by
  induction operands with
  | nil => rfl
  | cons operand rest ih =>
      rw [List.mapM_cons, modeOf_letter (letters operand List.mem_cons_self),
        ih fun other member => letters other (.tail _ member)]
      rfl

theorem mapM_modeOf_other {operands : List Token} (member : token ∈ operands)
    (other : token ∉ modeLetters) :
    ∃ unexpected, operands.mapM Parameters.modeOf = .error (.unexpected unexpected) := by
  induction operands with
  | nil => contradiction
  | cons operand rest ih =>
      by_cases letter : operand ∈ modeLetters
      · have later : token ∈ rest := by
          refine (List.mem_cons.mp member).resolve_left ?_
          rintro rfl
          exact other letter
        obtain ⟨unexpected, refused⟩ := ih later
        exact ⟨unexpected, by rw [List.mapM_cons, modeOf_letter letter, refused]; rfl⟩
      · exact ⟨operand, by rw [List.mapM_cons, modeOf_other letter]; rfl⟩

theorem modeOfLetter_eq_benchmark_iff :
    modeOfLetter token = .benchmark ↔ token = Text.ofString "b" := by
  by_cases benchmark : token = Text.ofString "b"
  · simp [modeOfLetter, benchmark]
  · by_cases generate : token = Text.ofString "g" <;> simp [modeOfLetter, benchmark, generate]

/-- What the modes come to hangs on the letters `b` and, at the end, `g` alone. -/
theorem select_modes (line : Line) : Mode.select (line.operands.map modeOfLetter) = line.mode := by
  have benchmarks : (line.operands.map modeOfLetter).contains .benchmark = true ↔
      Text.ofString "b" ∈ line.operands := by
    simp [modeOfLetter_eq_benchmark_iff]
  by_cases benchmark : Text.ofString "b" ∈ line.operands
  · rw [Mode.select, if_pos (benchmarks.mpr benchmark), mode, if_pos benchmark]
  · rw [Mode.select, if_neg (mt benchmarks.mp benchmark), mode, if_neg benchmark,
      List.getLast?_map]
    cases last : line.operands.getLast? with
    | none => rfl
    | some letter =>
        have other : letter ≠ Text.ofString "b" := by
          rintro rfl
          exact benchmark (List.mem_of_getLast? last)
        simp [modeOfLetter, other]

def password (line : Line) : Except Text.Unencodable (Option Bytes) :=
  match line.last? .password with
  | none => .ok none
  | some text => text.encoded.map some

theorem received_of_last? (received : ∀ token ∈ tokens, token.IsReceived)
    (last : (ofTokens tokens).last? parameter = some text) : text.IsReceived := by
  obtain ⟨token, member, suffix⟩ := suffix_of_setting (setting_of_last? last)
  exact (received token member).suffix suffix

/-- The password of a received line is the bytes of its last value. -/
theorem password_of_received (received : ∀ token ∈ tokens, token.IsReceived) :
    (ofTokens tokens).password = .ok (((ofTokens tokens).last? .password).map Text.bytes) := by
  cases last : (ofTokens tokens).last? .password with
  | none => simp [password, last]
  | some text =>
      have encoded := (received_of_last? received last).encoded
      simp [password, last, encoded, Except.map]

end Line

namespace Parameters

theorem withoutPassword_disorderly (reading : Reading) (member : token ∈ reading.modes)
    (other : token ∉ Line.modeLetters) :
    ∃ unexpected, withoutPassword reading = .error (.unexpected unexpected) := by
  obtain ⟨unexpected, refused⟩ := Line.mapM_modeOf_other member other
  exact ⟨unexpected, by simp only [withoutPassword, refused]; rfl⟩

/-- The numbers are read one after the other, up to the first that is none. -/
theorem withoutPassword_orderly (undivided : Line.Undivided tokens)
    (orderly : (Line.ofTokens tokens).Orderly) :
    withoutPassword (Line.ofTokens tokens).reading =
      match (Line.ofTokens tokens).firstMisread? with
      | some (misread, text) => .error (.notANumber misread.label text)
      | none => .ok ((Line.ofTokens tokens).parameters none) := by
  have modes : (Line.ofTokens tokens).reading.modes.mapM modeOf =
      .ok ((Line.ofTokens tokens).operands.map Line.modeOfLetter) :=
    Line.mapM_modeOf_letters orderly.2
  have tag : (((Line.ofTokens tokens).reading.value? .variant).map kept).getD (some "i") =
      some (((Line.ofTokens tokens).last? .variant).getD "i") := by
    change (((Line.ofTokens tokens).last? .variant).map kept).getD _ = _
    cases last : (Line.ofTokens tokens).last? .variant with
    | none => rfl
    | some value => simp [undivided.kept_last last]
  simp only [withoutPassword, modes, undivided.numeric, Line.firstMisread?, List.findSome?_cons,
    List.findSome?_nil, tag]
  cases (Line.ofTokens tokens).misread? .passes with
  | some misread => rfl
  | none =>
      cases (Line.ofTokens tokens).misread? .memory with
      | some misread => rfl
      | none =>
          cases (Line.ofTokens tokens).misread? .lanes with
          | some misread => rfl
          | none =>
              cases (Line.ofTokens tokens).misread? .threads with
              | some misread => rfl
              | none =>
                  refine congrArg Except.ok ?_
                  rw [Line.select_modes, Line.parameters, Parameters.ofGiven_eq]

theorem ofTokens_unfinished (undivided : Line.Undivided tokens)
    (unfinished : (Line.ofTokens tokens).unfinished? = some parameter) :
    ofTokens tokens = .error (.usage (.missing parameter)) := by
  simp only [ofTokens, Reading.ofTokens_unfinished undivided.free unfinished]
  rfl

theorem ofTokens_disorderly (undivided : Line.Undivided tokens)
    (finished : (Line.ofTokens tokens).unfinished? = none)
    (member : token ∈ (Line.ofTokens tokens).operands) (other : token ∉ Line.modeLetters) :
    ∃ error, ofTokens tokens = .error (.usage error) ∧
      error.message = Text.ofString "unknown argument" := by
  rcases Reading.ofTokens_operands undivided.free finished with ⟨extras, refused, -⟩ | read
  · exact ⟨.unrecognized extras, by simp only [ofTokens, refused]; rfl, rfl⟩
  · obtain ⟨unexpected, refused⟩ :=
      withoutPassword_disorderly (Line.ofTokens tokens).reading member other
    refine ⟨.unexpected unexpected, ?_, rfl⟩
    simp only [ofTokens, read]
    change (withoutPassword (Line.ofTokens tokens).reading).mapError Refusal.usage >>= _ = _
    rw [refused]
    rfl

theorem reading_orderly (orderly : (Line.ofTokens tokens).Orderly) :
    Reading.ofTokens tokens = .ok (Line.ofTokens tokens).reading := by
  have free : divider ∉ (Line.ofTokens tokens).operands := fun member =>
    absurd (orderly.2 divider member) (by decide)
  rcases Reading.ofTokens_operands free orderly.1 with ⟨-, -, letter, member, word⟩ | read
  · have mode := orderly.2 letter member
    simp only [Line.modeLetters, List.mem_cons, List.not_mem_nil, or_false] at mode
    rcases mode with rfl | rfl | rfl <;> exact absurd word (by decide)
  · exact read

theorem withPassword_last (undivided : Line.Undivided tokens) (parameters : Parameters) :
    parameters.withPassword ((Line.ofTokens tokens).last? .password) =
      match (Line.ofTokens tokens).password with
      | .ok none => .ok parameters
      | .ok (some password) => .ok { parameters with password := some password }
      | .error error => .error (.password error) := by
  cases last : (Line.ofTokens tokens).last? .password with
  | none => simp [withPassword, Line.password, last]
  | some text =>
      simp only [withPassword, undivided.kept_last last, Line.password, last]
      cases text.encoded <;> rfl

theorem ofTokens_misread (undivided : Line.Undivided tokens)
    (orderly : (Line.ofTokens tokens).Orderly)
    (misread : (Line.ofTokens tokens).firstMisread? = some (parameter, text)) :
    ofTokens tokens = .error (.usage (.notANumber parameter.label text)) := by
  have numbers := withoutPassword_orderly undivided orderly
  rw [misread] at numbers
  simp only [ofTokens, reading_orderly orderly]
  change (withoutPassword (Line.ofTokens tokens).reading).mapError Refusal.usage >>= _ = _
  rw [numbers]
  rfl

theorem ofTokens_orderly (undivided : Line.Undivided tokens)
    (orderly : (Line.ofTokens tokens).Orderly)
    (numbers : (Line.ofTokens tokens).firstMisread? = none) :
    ofTokens tokens =
      match (Line.ofTokens tokens).password with
      | .ok password => .ok ((Line.ofTokens tokens).parameters password)
      | .error error => .error (.password error) := by
  have numbers := numbers ▸ withoutPassword_orderly undivided orderly
  simp only [ofTokens, reading_orderly orderly]
  change (withoutPassword (Line.ofTokens tokens).reading).mapError Refusal.usage >>= _ = _
  rw [numbers]
  change withPassword _ ((Line.ofTokens tokens).last? .password) = _
  rw [withPassword_last undivided]
  cases (Line.ofTokens tokens).password with
  | error error => rfl
  | ok password => cases password <;> rfl

/-- An undivided line that was received is either misused or accepted, and accepted only if
nothing in it is wrong. -/
theorem misused_or_accepted (undivided : Line.Undivided tokens)
    (received : ∀ token ∈ tokens, token.IsReceived) :
    (∃ error, ofTokens tokens = .error (.usage error)) ∨
      ((Line.ofTokens tokens).Orderly ∧ ∃ parameters, ofTokens tokens = .ok parameters) := by
  cases unfinished : (Line.ofTokens tokens).unfinished? with
  | some parameter => exact .inl ⟨_, ofTokens_unfinished undivided unfinished⟩
  | none =>
      by_cases letters : ∀ operand ∈ (Line.ofTokens tokens).operands, operand ∈ Line.modeLetters
      · have orderly : (Line.ofTokens tokens).Orderly := ⟨unfinished, letters⟩
        cases misread : (Line.ofTokens tokens).firstMisread? with
        | some found => exact .inl ⟨_, ofTokens_misread undivided orderly misread⟩
        | none =>
            have accepted := ofTokens_orderly undivided orderly misread
            rw [Line.password_of_received received] at accepted
            exact .inr ⟨orderly, _, accepted⟩
      · obtain ⟨operand, disorder⟩ := not_forall.mp letters
        obtain ⟨member, other⟩ := Classical.not_imp.mp disorder
        obtain ⟨error, refused, -⟩ := ofTokens_disorderly undivided unfinished member other
        exact .inl ⟨error, refused⟩

end Parameters

def Refuses (tokens : List Token) (message : Text) : Prop :=
  ∃ error, Parameters.ofTokens tokens = .error (.usage error) ∧ error.message = message

/-- An overridden value is not looked at, and a value may look like a name. -/
def tangledTokens : List Token :=
  ["-m", "x", "g", "-m", "-3", "-i", "-secret", "-l==2", "--lanes=5", "r"]

end Argon2Workbench.CommandLine
