import Argon2Workbench.Proofs.CommandLine.Grammar
import Argon2Workbench.Proofs.Outcome
import Argon2Workbench.Proofs.Text.Pieces

/-! Command lines of mode letters and names with a value each, as they are received in bytes.

Whatever a value looks like, it is taken as it is, byte for byte. One value alone is not:
two dashes are taken away again behind the pairing of names with values, and what is left
of that name is no value at all.
-/

namespace Argon2Workbench.CommandLine

inductive Spelling where
  | short
  | long
deriving DecidableEq, Repr

def Parameter.name (parameter : Parameter) : Spelling → Token
  | .short => parameter.short
  | .long => parameter.long

inductive Piece where
  | letter (mode : Mode)
  | pair (parameter : Parameter) (spelling : Spelling) (value : Bytes)
deriving DecidableEq, Repr

namespace Piece

def tokens : Piece → List Token
  | letter mode => [Text.ofString mode.letter]
  | pair parameter spelling value => [parameter.name spelling, Text.ofBytes value]

def item : Piece → Item
  | letter mode => .operand mode.letter
  | pair parameter _ value => .setting parameter (Text.ofBytes value)

def mode? : Piece → Option Mode
  | letter mode => some mode
  | pair .. => none

def setting? : Piece → Option (Parameter × Bytes)
  | letter _ => none
  | pair parameter _ value => some (parameter, value)

end Piece

abbrev Row := List Piece

def dashes : Bytes := Text.utf8 "--"

namespace Row

def tokens (row : Row) : List Token :=
  row.flatMap Piece.tokens

def modes (row : Row) : List Mode :=
  row.filterMap Piece.mode?

def last? (row : Row) (parameter : Parameter) : Option Bytes :=
  (row.filterMap Piece.setting?).reverse.lookup parameter

def numbers : List Parameter := [.passes, .memory, .lanes, .threads]

def Numeric (row : Row) : Prop :=
  ∀ parameter spelling value, .pair parameter spelling value ∈ row → parameter ∈ numbers →
    (integer? (Text.ofBytes value)).isSome

def integer (row : Row) (parameter : Parameter) : Option Int :=
  (row.last? parameter).bind fun value => integer? (Text.ofBytes value)

/-- A tag of two dashes is taken away. -/
def tag (row : Row) : Option Text :=
  match row.last? .variant with
  | none => some "i"
  | some value => if value = dashes then none else some (Text.ofBytes value)

def parameters (row : Row) : Parameters :=
  .ofGiven row.tag row.integer (row.last? .password) (.select row.modes)

end Row

variable {row before after : Row} {parameter other : Parameter} {spelling : Spelling}
  {value : Bytes}

theorem Parameter.ofName?_name (parameter : Parameter) (spelling : Spelling) :
    ofName? (parameter.name spelling) = some parameter := by
  cases spelling with
  | short => exact parameter.ofName?_short
  | long => exact parameter.ofName?_long

/-- A row is read piece by piece, for no value is looked at before it is taken. -/
theorem Line.ofTokens_row (row : Row) : ofTokens row.tokens = row.map Piece.item := by
  induction row with
  | nil => rfl
  | cons piece rest ih =>
      have split : Row.tokens (piece :: rest) = piece.tokens ++ Row.tokens rest := rfl
      rw [split, List.map_cons, ← ih]
      cases piece with
      | letter mode =>
          have nameless : Parameter.ofName? (Text.ofString mode.letter) = none := by
            cases mode <;> decide
          have operand : Item.ofToken (Text.ofString mode.letter) = .operand mode.letter := by
            cases mode <;> decide
          rw [Piece.tokens, List.singleton_append, ofTokens_cons nameless, operand]
          rfl
      | pair parameter spelling value =>
          exact ofTokens_pair (parameter.ofName?_name spelling) _ _

theorem Row.operands_map_item (row : Row) :
    Line.operands (row.map Piece.item) = row.modes.map fun mode => Text.ofString mode.letter := by
  induction row with
  | nil => rfl
  | cons piece rest ih =>
      cases piece with
      | letter mode => exact congrArg (Text.ofString mode.letter :: ·) ih
      | pair => exact ih

theorem Row.last?_map_item (row : Row) (parameter : Parameter) :
    Line.last? (row.map Piece.item) parameter = (row.last? parameter).map Text.ofBytes := by
  have settings : (row.map Piece.item).filterMap Item.setting? =
      (row.filterMap Piece.setting?).map fun setting => (setting.1, Text.ofBytes setting.2) := by
    induction row with
    | nil => rfl
    | cons piece rest ih =>
        cases piece with
        | letter mode => exact ih
        | pair parameter _ value => exact congrArg ((parameter, Text.ofBytes value) :: ·) ih
  have mapped : ∀ given : List (Parameter × Bytes),
      (given.map fun setting => (setting.1, Text.ofBytes setting.2)).lookup parameter =
        (given.lookup parameter).map Text.ofBytes := by
    intro given
    induction given with
    | nil => rfl
    | cons setting rest ih =>
        obtain ⟨other, value⟩ := setting
        by_cases same : parameter = other
        · simp [same]
        · simp [List.lookup_cons, beq_false_of_ne same, ih]
  rw [Line.last?, settings, ← List.map_reverse, mapped, Row.last?]

theorem Row.orderly (row : Row) : Line.Orderly (row.map Piece.item) := by
  constructor
  · rw [Line.unfinished?, List.findSome?_eq_none_iff]
    intro item member
    obtain ⟨piece, -, rfl⟩ := List.mem_map.mp member
    cases piece <;> rfl
  · rw [Row.operands_map_item]
    intro operand member
    obtain ⟨mode, -, rfl⟩ := List.mem_map.mp member
    cases mode <;> decide

theorem Text.ofBytes_eq_divider_iff : Text.ofBytes value = divider ↔ value = dashes := by
  constructor
  · intro same
    rw [← Text.bytes_ofBytes value, same]
    exact Text.bytes_ofString "--"
  · rintro rfl
    decide

theorem Parameters.kept_ofBytes (value : Bytes) :
    kept (Text.ofBytes value) = if value = dashes then none else some (Text.ofBytes value) := by
  by_cases same : value = dashes
  · rw [kept, if_pos (Text.ofBytes_eq_divider_iff.mpr same), if_pos same]
  · rw [kept, if_neg (mt Text.ofBytes_eq_divider_iff.mp same), if_neg same]

theorem Row.last?_append (before after : Row) (parameter : Parameter) :
    (before ++ after).last? parameter = (after.last? parameter).or (before.last? parameter) := by
  rw [last?, List.filterMap_append, List.reverse_append, List.lookup_append]
  rfl

theorem Row.last?_pair (after : Row) (spelling : Spelling) (value : Bytes) :
    Row.last? (.pair parameter spelling value :: after) other =
      (after.last? other).or (if other = parameter then some value else none) := by
  have alone : Row.last? [.pair parameter spelling value] other =
      if other = parameter then some value else none := by
    by_cases same : other = parameter
    · simp [last?, Piece.setting?, same]
    · simp [last?, Piece.setting?, List.lookup_cons, beq_false_of_ne same, same]
  rw [← alone, ← last?_append]
  rfl

theorem Row.pair_of_last? (last : row.last? parameter = some value) :
    ∃ spelling, .pair parameter spelling value ∈ row := by
  obtain ⟨newer, older, split, -⟩ := List.lookup_eq_some_iff.mp last
  have member : (parameter, value) ∈ (row.filterMap Piece.setting?).reverse := by
    rw [split]
    exact List.mem_append_right _ List.mem_cons_self
  obtain ⟨piece, inRow, setting⟩ := List.mem_filterMap.mp (List.mem_reverse.mp member)
  cases piece with
  | letter => contradiction
  | pair parameter spelling value =>
      cases setting
      exact ⟨spelling, inRow⟩

theorem Parameters.numeric_row (numeric : row.Numeric) (number : parameter ∈ Row.numbers)
    (wrap : Int → Nat) (default : Nat) :
    Parameters.numeric (Line.reading (row.map Piece.item)) parameter wrap default =
      .ok ((row.integer parameter).elim default wrap) := by
  have given : (Line.reading (row.map Piece.item)).value? parameter =
      (row.last? parameter).map Text.ofBytes := row.last?_map_item parameter
  cases last : row.last? parameter with
  | none => simp [Parameters.numeric, given, last, Row.integer]
  | some value =>
      obtain ⟨spelling, member⟩ := Row.pair_of_last? last
      obtain ⟨whole, read⟩ := Option.isSome_iff_exists.mp (numeric _ _ _ member number)
      have other : Text.ofBytes value ≠ divider := by
        intro same
        have unread : integer? divider = none := by decide
        rw [same, unread] at read
        contradiction
      simp [Parameters.numeric, given, last, kept, other, shown, Parameters.number, read,
        Row.integer, Except.map]

theorem Parameters.withoutPassword_row (numeric : row.Numeric) :
    withoutPassword (Line.reading (row.map Piece.item)) =
      .ok { row.parameters with password := none } := by
  have letter : Line.modeOfLetter ∘ (fun mode : Mode => Text.ofString mode.letter) = id := by
    funext mode
    cases mode <;> rfl
  have modes : (Line.reading (row.map Piece.item)).modes.mapM modeOf = .ok row.modes := by
    rw [Line.reading, Line.mapM_modeOf_letters row.orderly.2, row.operands_map_item,
      List.map_map, letter, List.map_id]
  have tag : (((Line.reading (row.map Piece.item)).value? .variant).map kept).getD (some "i") =
      row.tag := by
    have given : (Line.reading (row.map Piece.item)).value? .variant =
        (row.last? .variant).map Text.ofBytes := row.last?_map_item .variant
    rw [given, Row.tag]
    cases row.last? .variant with
    | none => rfl
    | some value => exact kept_ofBytes value
  simp only [withoutPassword, modes, numeric_row numeric (show .passes ∈ Row.numbers by decide),
    numeric_row numeric (show .memory ∈ Row.numbers by decide),
    numeric_row numeric (show .lanes ∈ Row.numbers by decide),
    numeric_row numeric (show .threads ∈ Row.numbers by decide), tag]
  rw [Row.parameters, ofGiven_eq]
  rfl

/-- The parameters of a row are its last values; where the last password is two dashes,
there are none. -/
theorem Parameters.ofTokens_row (numeric : row.Numeric) :
    ofTokens row.tokens =
      if row.last? .password = some dashes then .error .passwordMissing
      else .ok row.parameters := by
  have line := Line.ofTokens_row row
  have read := reading_orderly (line.symm ▸ row.orderly)
  rw [line] at read
  have bare := withoutPassword_row numeric
  have password : (Line.reading (row.map Piece.item)).value? .password =
      (row.last? .password).map Text.ofBytes := row.last?_map_item .password
  have ended : ofTokens row.tokens = withPassword { row.parameters with password := none }
      ((row.last? .password).map Text.ofBytes) := by
    simp only [ofTokens, read, Except.mapError, ok_bind, bare, password]
  rw [ended]
  cases last : row.last? .password with
  | none => simp [withPassword, Row.parameters, ofGiven, last]
  | some value =>
      by_cases divided : value = dashes
      · simp [withPassword, kept_ofBytes, divided]
      · have encoded := (Text.isReceived_ofBytes value).encoded
        rw [Text.bytes_ofBytes] at encoded
        simp [withPassword, kept_ofBytes, divided, encoded, Except.mapError, Except.map,
          Row.parameters, ofGiven, last]

def Row.between (before after : Row) (parameter : Parameter) (spelling : Spelling)
    (value : Bytes) : Row :=
  before ++ .pair parameter spelling value :: after

theorem Row.last?_between (untouched : other ≠ parameter) :
    (between before after parameter spelling value).last? other =
      (before ++ after).last? other := by
  rw [between, last?_append, last?_pair, if_neg untouched, Option.or_none, last?_append]

theorem Row.last?_between_self (last : after.last? parameter = none) :
    (between before after parameter spelling value).last? parameter = some value := by
  rw [between, last?_append, last?_pair, if_pos rfl, last, Option.none_or, Option.some_or]

theorem Row.integer_between (untouched : other ≠ parameter) :
    (between before after parameter spelling value).integer other =
      (before ++ after).integer other := by
  rw [integer, last?_between untouched, integer]

theorem Row.modes_between :
    (between before after parameter spelling value).modes = (before ++ after).modes := by
  rw [between, modes, List.filterMap_append, modes, List.filterMap_append]
  rfl

theorem Row.numeric_between (numeric : (before ++ after).Numeric) (word : parameter ∉ numbers) :
    (between before after parameter spelling value).Numeric := by
  intro other otherSpelling given member number
  have elsewhere : .pair other otherSpelling given ∈ before ++ after := by
    rcases List.mem_append.mp member with first | later
    · exact List.mem_append_left _ first
    · rcases List.mem_cons.mp later with same | behind
      · cases same
        contradiction
      · exact List.mem_append_right _ behind
  exact numeric other otherSpelling given elsewhere number

theorem Row.parameters_password (last : after.last? .password = none) :
    (between before after .password spelling value).parameters =
      { (before ++ after).parameters with password := some value } := by
  have tag : (between before after .password spelling value).tag = (before ++ after).tag := by
    rw [Row.tag, last?_between (by decide), Row.tag]
  simp only [parameters, Parameters.ofGiven, tag, last?_between_self last, modes_between,
    integer_between (show Parameter.passes ≠ .password by decide),
    integer_between (show Parameter.memory ≠ .password by decide),
    integer_between (show Parameter.lanes ≠ .password by decide),
    integer_between (show Parameter.threads ≠ .password by decide)]

theorem Row.parameters_variant (last : after.last? .variant = none) :
    (between before after .variant spelling value).parameters =
      { (before ++ after).parameters with
        tag := if value = dashes then none else some (Text.ofBytes value) } := by
  have tag : (between before after .variant spelling value).tag =
      if value = dashes then none else some (Text.ofBytes value) := by
    simp only [Row.tag, last?_between_self last]
  simp only [parameters, Parameters.ofGiven, tag,
    last?_between (show Parameter.password ≠ .variant by decide), modes_between, integer_between (show Parameter.passes ≠ .variant by decide),
    integer_between (show Parameter.memory ≠ .variant by decide),
    integer_between (show Parameter.lanes ≠ .variant by decide),
    integer_between (show Parameter.threads ≠ .variant by decide)]

/-- The last password is taken as it is, whatever its bytes look like, and the last tag is,
and all else is what it would be without them. Two dashes are the exception: in the place
of the password they end in an error, and in that of the tag there is none. -/
theorem Parameters.last_value_taken (before after : Row) (spelling : Spelling)
    (numeric : (before ++ after).Numeric) :
    (after.last? .password = none → ∀ value,
      ofTokens (Row.between before after .password spelling value).tokens =
        if value = dashes then .error .passwordMissing
        else .ok { (before ++ after).parameters with password := some value }) ∧
    (after.last? .variant = none → (before ++ after).last? .password ≠ some dashes → ∀ value,
      ofTokens (Row.between before after .variant spelling value).tokens =
        .ok { (before ++ after).parameters with
          tag := if value = dashes then none else some (Text.ofBytes value) } ∧
      (Text.ofBytes value).bytes = value) := by
  constructor
  · intro last value
    rw [ofTokens_row (Row.numeric_between numeric (by decide)), Row.last?_between_self last,
      Row.parameters_password last]
    simp only [Option.some.injEq]
  · intro last kept value
    have password : (Row.between before after .variant spelling value).last? .password ≠
        some dashes := by
      rwa [Row.last?_between (by decide)]
    refine ⟨?_, Text.bytes_ofBytes value⟩
    rw [ofTokens_row (Row.numeric_between numeric (by decide)), if_neg password,
      Row.parameters_variant last]

/-- Nothing is said about the password by two dashes in its place. -/
theorem Parameters.dashes_not_taken : ofTokens ["-i", "--"] = .error .passwordMissing := by
  rfl

/-- The name of another option, and dashes with a byte behind them that is no text. -/
theorem Parameters.odd_values_taken :
    ofTokens ["-i", "--", "g", "-i", "-t", "-m", "-3", "r"] =
        .ok { memory := twoTo 19, password := some (Text.utf8 "-t") } ∧
      ofTokens (Row.between [.letter .generate] [] .password .long [0x2d, 0x2d, 0xff]).tokens =
        .ok { password := some [0x2d, 0x2d, 0xff], mode := .generate } := by
  have numeric : Row.Numeric [.pair .password .short dashes, .letter .generate,
      .pair .memory .short (Text.utf8 "-3"), .letter .run] := by
    intro parameter spelling value member number
    simp only [List.mem_cons, List.not_mem_nil, reduceCtorEq, Piece.pair.injEq, or_false,
      false_or] at member
    rcases member with ⟨rfl, -⟩ | ⟨rfl, -, rfl⟩
    · contradiction
    · decide
  have alone : Row.Numeric [.letter .generate] := fun _ _ _ member => by simp at member
  refine ⟨?_, ?_⟩
  · refine ((last_value_taken [.pair .password .short dashes, .letter .generate]
      [.pair .memory .short (Text.utf8 "-3"), .letter .run] .short numeric).1 (by decide)
      (Text.utf8 "-t")).trans ?_
    rfl
  · refine ((last_value_taken [.letter .generate] [] .long alone).1 rfl
      [0x2d, 0x2d, 0xff]).trans ?_
    rfl

end Argon2Workbench.CommandLine
