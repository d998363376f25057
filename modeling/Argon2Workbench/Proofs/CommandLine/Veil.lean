import Argon2Workbench.Proofs.CommandLine.Asked
import Mathlib.Data.List.Forall2

namespace Argon2Workbench.CommandLine

/-- The same tokens, read from left to right, but for those behind names of the password. -/
inductive Alike : List Token → List Token → Prop where
  | empty : Alike [] []
  | unfinished {token : Token} {parameter : Parameter}
      (named : Parameter.ofName? token = some parameter) : Alike [token] [token]
  | single {token : Token} (nameless : Parameter.ofName? token = none) {rest others : List Token}
      (behind : Alike rest others) : Alike (token :: rest) (token :: others)
  | setting {token : Token} {parameter : Parameter}
      (named : Parameter.ofName? token = some parameter) (value : Token)
      {rest others : List Token} (behind : Alike rest others) :
      Alike (token :: value :: rest) (token :: value :: others)
  | password {token : Token} (named : Parameter.ofName? token = some .password)
      (value other : Token) {rest others : List Token} (behind : Alike rest others) :
      Alike (token :: value :: rest) (token :: other :: others)

variable {tokens others : List Token} {parameter : Parameter}

/-- The same value, or two passwords neither of which is the divider. -/
inductive SettingAlike : Parameter × Text → Parameter × Text → Prop where
  | same (setting : Parameter × Text) : SettingAlike setting setting
  | password {text other : Text} (taken : text ≠ divider) (otherTaken : other ≠ divider) :
      SettingAlike (.password, text) (.password, other)

theorem lookup_alike {given others : Given} (alike : List.Forall₂ SettingAlike given others) :
    given.lookup parameter = others.lookup parameter ∨
      parameter = .password ∧ ∃ text other, given.lookup parameter = some text ∧
        others.lookup parameter = some other ∧ text ≠ divider ∧ other ≠ divider := by
  induction alike with
  | nil => exact .inl rfl
  | @cons first _ _ _ same _ ih =>
      cases same with
      | same =>
          obtain ⟨name, value⟩ := first
          by_cases found : parameter = name
          · left
            rw [List.lookup_cons, List.lookup_cons, found, beq_self_eq_true]
          · simpa only [List.lookup_cons, beq_false_of_ne found] using ih
      | @password text other taken otherTaken =>
          by_cases found : parameter = .password
          · subst found
            exact .inr ⟨rfl, text, other, rfl, rfl, taken, otherTaken⟩
          · simpa only [List.lookup_cons, beq_false_of_ne found] using ih

structure Line.Alike (line other : Line) : Prop where
  unfinished : line.unfinished? = other.unfinished?
  operands : line.operands = other.operands
  settings : List.Forall₂ SettingAlike line.settings other.settings

namespace Line.Alike

variable {line other : Line}

theorem empty : Line.Alike [] [] :=
  ⟨rfl, rfl, .nil⟩

theorem cons (item : Item) (behind : line.Alike other) :
    Line.Alike (item :: line) (item :: other) := by
  cases item with
  | setting parameter value =>
      exact ⟨behind.unfinished, behind.operands, .cons (.same _) behind.settings⟩
  | operand token =>
      exact ⟨behind.unfinished, congrArg (token :: ·) behind.operands, behind.settings⟩
  | unfinished parameter => exact ⟨rfl, behind.operands, behind.settings⟩

theorem password {text otherText : Text} (behind : line.Alike other) (taken : text ≠ divider)
    (otherTaken : otherText ≠ divider) :
    Line.Alike (.setting .password text :: line) (.setting .password otherText :: other) :=
  ⟨behind.unfinished, behind.operands, .cons (.password taken otherTaken) behind.settings⟩

theorem last? (alike : line.Alike other) (parameter : Parameter) :
    line.last? parameter = other.last? parameter ∨
      parameter = .password ∧ ∃ text otherText, line.last? parameter = some text ∧
        other.last? parameter = some otherText ∧ text ≠ divider ∧ otherText ≠ divider :=
  lookup_alike (List.forall₂_reverse_iff.mpr alike.settings)

end Line.Alike

theorem Alike.lines (alike : Alike tokens others) (free : divider ∉ tokens)
    (otherFree : divider ∉ others) :
    (Line.ofTokens tokens).Alike (Line.ofTokens others) := by
  induction alike with
  | empty => exact .empty
  | unfinished named =>
      simp only [Line.ofTokens, named]
      exact Line.Alike.empty.cons _
  | single nameless _ ih =>
      rw [Line.ofTokens_cons nameless, Line.ofTokens_cons nameless]
      exact (ih (fun member => free (.tail _ member))
        (fun member => otherFree (.tail _ member))).cons _
  | setting named value _ ih =>
      rw [Line.ofTokens_pair named, Line.ofTokens_pair named]
      exact (ih (fun member => free (.tail _ (.tail _ member)))
        (fun member => otherFree (.tail _ (.tail _ member)))).cons _
  | password named value other _ ih =>
      rw [Line.ofTokens_pair named, Line.ofTokens_pair named]
      refine (ih (fun member => free (.tail _ (.tail _ member)))
        (fun member => otherFree (.tail _ (.tail _ member)))).password ?_ ?_
      · rintro rfl
        exact free (.tail _ List.mem_cons_self)
      · rintro rfl
        exact otherFree (.tail _ List.mem_cons_self)

theorem Line.free_of_not_mem (free : divider ∉ tokens) :
    divider ∉ (Line.ofTokens tokens).operands :=
  fun member => free (Line.idle_of_mem_operands member).1

/-- What is out of place in words does not hang on what was given before them. -/
theorem Reading.ofWords_error {words : List Word} {given other : Given} {error : UsageError}
    (refused : ofWords given words = .error error) : ofWords other words = .error error := by
  simp only [ofWords] at refused ⊢
  split at refused
  · exact refused
  · split at refused
    · contradiction
    · next untidy => rw [if_neg untidy, refused]

theorem Reading.ofTokens_alike (alike : (Line.ofTokens tokens).Alike (Line.ofTokens others))
    (free : divider ∉ tokens) (otherFree : divider ∉ others) :
    (∃ error, ofTokens tokens = .error error ∧ ofTokens others = .error error) ∨
      (ofTokens tokens = .ok (Line.ofTokens tokens).reading ∧
        ofTokens others = .ok (Line.ofTokens others).reading) := by
  have left := Line.free_of_not_mem free
  have right := Line.free_of_not_mem otherFree
  cases finished : (Line.ofTokens tokens).unfinished? with
  | some parameter =>
      have otherFinished := alike.unfinished ▸ finished
      exact .inl ⟨_, ofTokens_unfinished left finished, ofTokens_unfinished right otherFinished⟩
  | none =>
      have otherFinished := alike.unfinished ▸ finished
      have words := ofTokens_finished left finished
      have otherWords := ofTokens_finished right otherFinished
      rw [← alike.operands] at otherWords
      rcases ofTokens_operands left finished with ⟨extras, refused, -⟩ | read
      · exact .inl ⟨_, refused, otherWords.trans (ofWords_error (words.symm.trans refused))⟩
      · rcases ofTokens_operands right otherFinished with ⟨extras, refused, -⟩ | otherRead
        · cases read.symm.trans (words.trans (ofWords_error (otherWords.symm.trans refused)))
        · exact .inr ⟨read, otherRead⟩

namespace Parameters

theorem numeric_congr {reading other : Reading}
    (same : reading.value? parameter = other.value? parameter) (wrap : Int → Nat) (default : Nat) :
    numeric reading parameter wrap default = numeric other parameter wrap default := by
  rw [numeric, same, numeric]

theorem withoutPassword_congr {reading other : Reading} (modes : reading.modes = other.modes)
    (values : ∀ parameter ≠ .password, reading.value? parameter = other.value? parameter) :
    withoutPassword reading = withoutPassword other := by
  simp only [withoutPassword, modes, values .variant (by decide),
    numeric_congr (values .passes (by decide)), numeric_congr (values .memory (by decide)),
    numeric_congr (values .lanes (by decide)), numeric_congr (values .threads (by decide))]

theorem withPassword_received {text : Text} (taken : text ≠ divider) (received : text.IsReceived)
    (parameters : Parameters) :
    parameters.withPassword (some text) = .ok { parameters with password := some text.bytes } := by
  simp only [withPassword, kept, if_neg taken, received.encoded, Except.mapError, Except.map]

/-- Lines that are alike are refused for the same reason, or their parameters differ in the
password alone. -/
theorem ofTokens_alike (alike : Alike tokens others) (free : divider ∉ tokens)
    (otherFree : divider ∉ others) (received : ∀ token ∈ tokens, token.IsReceived)
    (otherReceived : ∀ token ∈ others, token.IsReceived) :
    (∃ refusal, ofTokens tokens = .error refusal ∧ ofTokens others = .error refusal) ∨
      ∃ parameters password, ofTokens tokens = .ok parameters ∧
        ofTokens others = .ok { parameters with password } := by
  have lines := alike.lines free otherFree
  rcases Reading.ofTokens_alike lines free otherFree with
    ⟨error, refused, otherRefused⟩ | ⟨read, otherRead⟩
  · exact .inl ⟨.usage error, by rw [ofTokens, refused]; rfl, by rw [ofTokens, otherRefused]; rfl⟩
  have bare : withoutPassword (Line.ofTokens tokens).reading =
      withoutPassword (Line.ofTokens others).reading := by
    refine withoutPassword_congr lines.operands fun parameter other => ?_
    exact (lines.last? parameter).resolve_right fun password => other password.1
  cases outcome : withoutPassword (Line.ofTokens tokens).reading with
  | error error =>
      have otherOutcome := bare ▸ outcome
      refine .inl ⟨.usage error, ?_, ?_⟩
      · simp only [ofTokens, read, Except.mapError, ok_bind, outcome, error_bind]
      · simp only [ofTokens, otherRead, Except.mapError, ok_bind, otherOutcome, error_bind]
  | ok parameters =>
      have otherOutcome := bare ▸ outcome
      have left : ofTokens tokens =
          parameters.withPassword ((Line.ofTokens tokens).last? .password) := by
        simp only [ofTokens, read, Except.mapError, ok_bind, outcome]
        rfl
      have right : ofTokens others =
          parameters.withPassword ((Line.ofTokens others).last? .password) := by
        simp only [ofTokens, otherRead, Except.mapError, ok_bind, otherOutcome]
        rfl
      rcases lines.last? .password with same | ⟨-, text, other, last, otherLast, taken, otherTaken⟩
      · rw [← same, ← left] at right
        cases result : ofTokens tokens with
        | error refusal => exact .inl ⟨refusal, rfl, right.trans result⟩
        | ok accepted => exact .inr ⟨accepted, accepted.password, rfl, right.trans result⟩
      · have known := Line.received_of_last? received last
        have otherKnown := Line.received_of_last? otherReceived otherLast
        rw [last, withPassword_received taken known] at left
        rw [otherLast, withPassword_received otherTaken otherKnown] at right
        exact .inr ⟨_, some other.bytes, left, right⟩

end Parameters

end Argon2Workbench.CommandLine
