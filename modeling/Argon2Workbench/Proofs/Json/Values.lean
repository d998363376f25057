import Argon2Workbench.Proofs.Json.Strings
import Argon2Workbench.Proofs.Number.Numeral

namespace Argon2Workbench.Json

open Numeral (valueOf decimalDigits)

/-- The text does not go on with something that belongs to a number. -/
def EndsNumber (rest : List Char) : Prop :=
  ∀ character ∈ rest.head?, asciiDigit? character = none ∧ character ≠ '.' ∧ character ≠ 'e' ∧
    character ≠ 'E'

theorem endsNumber_cons {character : Char}
    (mark : character = ',' ∨ character = ']' ∨ character = '}') (rest : List Char) :
    EndsNumber (character :: rest) := by
  rintro _ ⟨⟩
  rcases mark with rfl | rfl | rfl <;> exact ⟨rfl, by decide, by decide, by decide⟩

theorem asciiDigit?_isDigit {character : Char} (digit : character.isDigit = true) :
    asciiDigit? character = some (character.toNat - '0'.toNat) := by
  have range : '0' ≤ character ∧ character ≤ '9' := by
    simpa [Char.isDigit, Char.le_def] using digit
  simp [asciiDigit?, range]

theorem readDigits_append {characters rest : List Char}
    (digits : ∀ character ∈ characters, character.isDigit = true)
    (ended : EndsNumber rest) :
    readDigits (characters ++ rest) =
      (characters.map fun character => character.toNat - '0'.toNat, rest) := by
  induction characters with
  | nil =>
      cases rest with
      | nil => rfl
      | cons first rest => simp [readDigits, (ended first rfl).1]
  | cons character characters ih =>
      have later := ih fun other member => digits other (List.mem_cons_of_mem character member)
      rw [List.cons_append, readDigits, asciiDigit?_isDigit (digits character List.mem_cons_self)]
      simp only [later, List.map_cons]

theorem readExponent_ended {rest : List Char} (ended : EndsNumber rest) :
    readExponent rest = some (none, rest) := by
  cases rest with
  | nil => rfl
  | cons first rest =>
      obtain ⟨-, -, small, capital⟩ := ended first rfl
      simp [readExponent, small, capital]

theorem readUnsigned_toDigits (negative : Bool) (value : Nat) {rest : List Char}
    (ended : EndsNumber rest) :
    readUnsigned negative (Nat.toDigits 10 value ++ rest) =
      some (integer (if negative then -value else value), rest) := by
  have digits : readDigits (Nat.toDigits 10 value ++ rest) = (decimalDigits value, rest) :=
    readDigits_append (fun _ => Text.isDigit_of_mem_decimal) ended
  have nonempty : decimalDigits value ≠ [] := (Numeral.digits_toDigits value).ne_nil
  have same : valueOf (decimalDigits value) = value := by
    rw [Numeral.valueOf_eq_ofDigits, Numeral.ofDigits_decimalDigits]
  obtain ⟨first, others, row⟩ := List.exists_cons_of_ne_nil nonempty
  rw [row] at digits same
  have exponent := readExponent_ended ended
  rw [readUnsigned, digits]
  cases rest with
  | nil => simp [exponent, same]
  | cons mark rest =>
      obtain ⟨-, point, -⟩ := ended mark rfl
      simp [exponent, same, point]

def IsUnblank (character : Char) : Prop :=
  character ≠ ' ' ∧ character ≠ '\n' ∧ character ≠ '\r' ∧ character ≠ '\t'

instance : DecidablePred IsUnblank :=
  fun _ => inferInstanceAs (Decidable (_ ∧ _))

theorem skipBlanks_cons {first : Char} (unblank : IsUnblank first) (rest : List Char) :
    skipBlanks (first :: rest) = first :: rest := by
  obtain ⟨blank, feed, carriage, tab⟩ := unblank
  simp [skipBlanks, blank, feed, carriage, tab]

theorem ne_of_isDigit {first mark : Char} (digit : first.isDigit = true)
    (other : mark.isDigit = false) : first ≠ mark := by
  rintro rfl
  simp [digit] at other

theorem isUnblank_of_isDigit {first : Char} (digit : first.isDigit = true) : IsUnblank first :=
  ⟨ne_of_isDigit digit rfl, ne_of_isDigit digit rfl, ne_of_isDigit digit rfl,
    ne_of_isDigit digit rfl⟩

theorem exists_digit_toDigits (value : Nat) :
    ∃ first others, Nat.toDigits 10 value = first :: others ∧ first.isDigit = true := by
  obtain ⟨first, others, row⟩ := List.exists_cons_of_ne_nil
    (Nat.toDigits_ne_nil (n := value) (b := 10))
  have member : first ∈ Nat.toDigits 10 value := row ▸ List.mem_cons_self
  exact ⟨first, others, row, Text.isDigit_of_mem_decimal member⟩

theorem readValue_digit (fuel : Nat) {first : Char} (digit : first.isDigit = true)
    (rest : List Char) :
    readValue (fuel + 1) (first :: rest) = readUnsigned false (first :: rest) := by
  have apart (mark : Char) (other : mark.isDigit = false) : first ≠ mark :=
    ne_of_isDigit digit other
  rw [readValue, skipBlanks_cons (isUnblank_of_isDigit digit)]
  simp [readNumber, apart '"' rfl, apart '[' rfl, apart '\x7b' rfl, apart 'n' rfl, apart 't' rfl,
    apart 'f' rfl, apart 'N' rfl, apart 'I' rfl, apart '-' rfl]

theorem readValue_minus (fuel : Nat) {first : Char} (digit : first.isDigit = true)
    (rest : List Char) :
    readValue (fuel + 1) ('-' :: first :: rest) = readUnsigned true (first :: rest) := by
  have finite : first ≠ 'I' := ne_of_isDigit digit rfl
  rw [readValue, skipBlanks_cons (by decide)]
  simp [readNumber, finite]

theorem readValue_integer (fuel : Nat) (value : Int) {rest : List Char} (ended : EndsNumber rest) :
    readValue (fuel + 1) (integerText value ++ rest) = some (integer value, rest) := by
  cases value with
  | ofNat value =>
      obtain ⟨first, others, row, digit⟩ := exists_digit_toDigits value
      have read := readUnsigned_toDigits false value ended
      rw [integerText, Numeral.toList_toString_ofNat]
      rw [row, List.cons_append] at read ⊢
      rw [readValue_digit fuel digit, read]
      rfl
  | negSucc value =>
      obtain ⟨first, others, row, digit⟩ := exists_digit_toDigits (value + 1)
      have read := readUnsigned_toDigits true (value + 1) ended
      rw [integerText, Numeral.toList_toString_negSucc]
      rw [row, List.cons_append] at read
      rw [row, List.cons_append, List.cons_append, readValue_minus fuel digit, read]
      rfl

mutual

/-- There is no real number in the value, and every text in it is joined. -/
def IsLegible : Json → Prop
  | null => True
  | boolean _ => True
  | integer _ => True
  | real _ => False
  | string text => text.IsJoined
  | array elements => AreLegible elements
  | object members => MembersLegible members

def AreLegible : List Json → Prop
  | [] => True
  | first :: rest => first.IsLegible ∧ AreLegible rest

def MembersLegible : List (Text × Json) → Prop
  | [] => True
  | (name, value) :: rest => name.IsJoined ∧ value.IsLegible ∧ MembersLegible rest

end

theorem membersLegible_iff {members : List (Text × Json)} :
    MembersLegible members ↔
      ∀ name value, (name, value) ∈ members → name.IsJoined ∧ value.IsLegible := by
  induction members with
  | nil => simp [MembersLegible]
  | cons first rest ih =>
      obtain ⟨name, value⟩ := first
      simp only [MembersLegible, ih, List.mem_cons, Prod.mk.injEq]
      constructor
      · rintro ⟨joined, legible, later⟩ other _ (⟨rfl, rfl⟩ | member)
        · exact ⟨joined, legible⟩
        · exact later other _ member
      · intro all
        exact ⟨(all name value (.inl ⟨rfl, rfl⟩)).1, (all name value (.inl ⟨rfl, rfl⟩)).2,
          fun other value member => all other value (.inr member)⟩

theorem quotedText_append (text : Text) (rest : List Char) :
    quotedText text ++ rest = '"' :: (text.units.flatMap escapedUnit ++ '"' :: rest) := by
  simp [quotedText]

theorem writeElements_cons (first second : Json) (others : List Json) :
    writeElements (first :: second :: others) =
      first.write ++ ',' :: ' ' :: writeElements (second :: others) :=
  rfl

theorem writeMembers_cons (name : Text) (value : Json) (second : Text × Json)
    (others : List (Text × Json)) :
    writeMembers ((name, value) :: second :: others) =
      quotedText name ++ ':' :: ' ' :: (value.write ++ ',' :: ' ' ::
        writeMembers (second :: others)) := by
  simp [writeMembers]

/-- A value begins with a character that ends neither a list nor the blanks in front of it. -/
theorem exists_head_write (value : Json) (legible : value.IsLegible) :
    ∃ first rest, write value = first :: rest ∧ IsUnblank first ∧ first ≠ ']' := by
  cases value with
  | null => exact ⟨_, _, rfl, by decide, by decide⟩
  | boolean value => cases value <;> exact ⟨_, _, rfl, by decide, by decide⟩
  | integer value =>
      cases value with
      | ofNat value =>
          obtain ⟨first, others, row, digit⟩ := exists_digit_toDigits value
          exact ⟨first, others, row ▸ Numeral.toList_toString_ofNat value,
            isUnblank_of_isDigit digit, ne_of_isDigit digit rfl⟩
      | negSucc value =>
          exact ⟨'-', _, Numeral.toList_toString_negSucc value, by decide, by decide⟩
  | real value => exact legible.elim
  | string text => exact ⟨_, _, rfl, by decide, by decide⟩
  | array elements => exact ⟨_, _, rfl, by decide, by decide⟩
  | object members => exact ⟨_, _, rfl, by decide, by decide⟩

theorem exists_head_writeElements (first : Json) (others : List Json)
    (legible : AreLegible (first :: others)) :
    ∃ head rest, writeElements (first :: others) = head :: rest ∧ IsUnblank head ∧
      head ≠ ']' := by
  obtain ⟨head, rest, written, unblank, opened⟩ := exists_head_write first legible.1
  cases others with
  | nil => exact ⟨head, rest, written, unblank, opened⟩
  | cons second others =>
      exact ⟨head, rest ++ ',' :: ' ' :: writeElements (second :: others),
        by rw [writeElements_cons, written]; rfl, unblank, opened⟩

theorem exists_quote_writeMembers (first : Text × Json) (others : List (Text × Json)) :
    ∃ rest, writeMembers (first :: others) = '"' :: rest := by
  cases others <;> simp [writeMembers, quotedText]

theorem readValue_string (fuel : Nat) {text : Text} (joined : text.IsJoined) (rest : List Char) :
    readValue (fuel + 1) (quotedText text ++ rest) = some (string text, rest) := by
  rw [quotedText_append, readValue, skipBlanks_cons (by decide)]
  simp [readText_escaped joined]

theorem readValue_blank (fuel : Nat) (rest : List Char) :
    readValue fuel (' ' :: rest) = readValue fuel rest := by
  cases fuel <;> rfl

theorem readElements_blank (fuel : Nat) (rest : List Char) :
    readElements fuel (' ' :: rest) = readElements fuel rest := by
  cases fuel with
  | zero => rfl
  | succ fuel => rw [readElements, readElements, readValue_blank]

theorem readMembers_blank (fuel : Nat) (rest : List Char) :
    readMembers fuel (' ' :: rest) = readMembers fuel rest := by
  cases fuel <;> rfl

theorem readMembers_quotedText (fuel : Nat) {name : Text} (joined : name.IsJoined)
    (rest : List Char) :
    readMembers (fuel + 1) (quotedText name ++ ':' :: ' ' :: rest) =
      (do
        let (value, rest) ← readValue fuel rest
        match skipBlanks rest with
        | '}' :: remaining => return ([(name, value)], remaining)
        | ',' :: rest => do
            let (members, remaining) ← readMembers fuel rest
            return ((name, value) :: members, remaining)
        | _ => none) := by
  rw [quotedText_append, readMembers, skipBlanks_cons (by decide)]
  simp only [readText_escaped joined, Option.bind_eq_bind, Option.bind_some]
  rw [skipBlanks_cons (by decide)]
  exact congrArg (Option.bind · _) (readValue_blank fuel rest)

mutual

theorem readValue_write (value : Json) (legible : value.IsLegible) (fuel : Nat) (rest : List Char)
    (enough : value.write.length ≤ fuel) (ended : EndsNumber rest) :
    readValue (fuel + 1) (value.write ++ rest) = some (value, rest) := by
  cases value with
  | null => simp [write, readValue, skipBlanks, afterWord]
  | boolean value =>
      cases value <;> simp [write, readValue, skipBlanks, afterWord]
  | integer value => exact readValue_integer fuel value ended
  | real value => exact legible.elim
  | string text => exact readValue_string fuel legible rest
  | array elements =>
      cases elements with
      | nil => simp [write, writeElements, readValue, skipBlanks]
      | cons first others =>
          obtain ⟨fuel, rfl⟩ : ∃ fewer, fuel = fewer + 1 :=
            Nat.exists_eq_add_one.mpr (Nat.lt_of_lt_of_le (by simp [write]) enough)
          have inside : (writeElements (first :: others)).length < fuel := by
            simp only [write, List.length_append, List.length_cons, List.length_nil] at enough
            omega
          have read := readElements_write (first :: others) legible (List.cons_ne_nil first others)
            fuel rest inside
          obtain ⟨head, text, written, unblank, opened⟩ :=
            exists_head_writeElements first others legible
          rw [written, List.cons_append] at read
          simp only [write, written, List.cons_append, List.append_assoc, List.nil_append]
          rw [readValue, skipBlanks_cons (by decide)]
          simp [skipBlanks_cons unblank, opened, read]
  | object members =>
      cases members with
      | nil => simp [write, writeMembers, readValue, skipBlanks]
      | cons first others =>
          obtain ⟨fuel, rfl⟩ : ∃ fewer, fuel = fewer + 1 :=
            Nat.exists_eq_add_one.mpr (Nat.lt_of_lt_of_le (by simp [write]) enough)
          have inside : (writeMembers (first :: others)).length < fuel := by
            simp only [write, List.length_append, List.length_cons, List.length_nil] at enough
            omega
          have read := readMembers_write (first :: others) legible (List.cons_ne_nil first others)
            fuel rest inside
          obtain ⟨text, written⟩ := exists_quote_writeMembers first others
          rw [written, List.cons_append] at read
          simp only [write, written, List.cons_append, List.append_assoc, List.nil_append]
          rw [readValue, skipBlanks_cons (by decide)]
          simp [skipBlanks_cons (by decide : IsUnblank '"'), read]

theorem readElements_write (elements : List Json) (legible : AreLegible elements)
    (nonempty : elements ≠ []) (fuel : Nat) (rest : List Char)
    (enough : (writeElements elements).length < fuel) :
    readElements (fuel + 1) (writeElements elements ++ ']' :: rest) = some (elements, rest) := by
  obtain ⟨fuel, rfl⟩ : ∃ fewer, fuel = fewer + 1 := Nat.exists_eq_add_one.mpr (by omega)
  cases elements with
  | nil => contradiction
  | cons first others =>
      cases others with
      | nil =>
          have read := readValue_write first legible.1 fuel (']' :: rest) (Nat.le_of_lt_succ enough)
            (endsNumber_cons (by decide) rest)
          rw [writeElements, readElements, read]
          simp [skipBlanks]
      | cons second others =>
          simp only [writeElements_cons, List.length_append, List.length_cons] at enough
          have read := readValue_write first legible.1 fuel
            (',' :: ' ' :: (writeElements (second :: others) ++ ']' :: rest)) (by omega)
            (endsNumber_cons (by decide) _)
          have later := readElements_write (second :: others) legible.2
            (List.cons_ne_nil second others) fuel rest (by omega)
          simp only [writeElements_cons, List.append_assoc, List.cons_append]
          rw [readElements, read]
          simp [skipBlanks, readElements_blank, later]

theorem readMembers_write (members : List (Text × Json)) (legible : MembersLegible members)
    (nonempty : members ≠ []) (fuel : Nat) (rest : List Char)
    (enough : (writeMembers members).length < fuel) :
    readMembers (fuel + 1) (writeMembers members ++ '}' :: rest) = some (members, rest) := by
  obtain ⟨fuel, rfl⟩ : ∃ fewer, fuel = fewer + 1 := Nat.exists_eq_add_one.mpr (by omega)
  cases members with
  | nil => contradiction
  | cons first others =>
      obtain ⟨name, value⟩ := first
      obtain ⟨joined, legible, others_legible⟩ := legible
      cases others with
      | nil =>
          simp only [writeMembers, List.length_append, List.length_cons] at enough
          have read := readValue_write value legible fuel ('}' :: rest) (by omega)
            (endsNumber_cons (by decide) rest)
          simp only [writeMembers, List.append_assoc, List.cons_append]
          rw [readMembers_quotedText (fuel + 1) joined, read]
          rfl
      | cons second others =>
          simp only [writeMembers_cons, List.length_append, List.length_cons] at enough
          have read := readValue_write value legible fuel
            (',' :: ' ' :: (writeMembers (second :: others) ++ '}' :: rest)) (by omega)
            (endsNumber_cons (by decide) _)
          have later := readMembers_write (second :: others) others_legible
            (List.cons_ne_nil second others) fuel rest (by omega)
          simp only [writeMembers_cons, List.append_assoc, List.cons_append]
          rw [readMembers_quotedText (fuel + 1) joined, read]
          simp [skipBlanks, readMembers_blank, later]

end

theorem read?_render {value : Json} (legible : value.IsLegible) :
    read? value.render = some value := by
  have read := readValue_write value legible value.write.length [] (Nat.le_refl _) (by nofun)
  rw [List.append_nil] at read
  simp [read?, render, read, skipBlanks]

theorem isWritable_integer {value : Int} :
    (integer value).isWritable = true ↔ value.natAbs < tenTo Numeral.digitLimit := by
  rw [isWritable, Numeral.isWritable_iff]

theorem isWritable_object {members : List (Text × Json)} :
    (object members).isWritable = true ↔
      ∀ name value, (name, value) ∈ members → value.isWritable = true := by
  change membersWritable members = true ↔ _
  induction members with
  | nil => simp [membersWritable]
  | cons first rest ih =>
      obtain ⟨name, value⟩ := first
      simp only [membersWritable, Bool.and_eq_true, ih, List.mem_cons, Prod.mk.injEq]
      constructor
      · rintro ⟨writable, others⟩ _ _ (⟨rfl, rfl⟩ | member)
        · exact writable
        · exact others _ _ member
      · intro all
        exact ⟨all name value (.inl ⟨rfl, rfl⟩), fun other value member => all other value (.inr member)⟩

theorem isShown_of_mem_integerText {value : Int} {character : Char}
    (member : character ∈ integerText value) : IsShown character := by
  have shown {number : Nat} (member : character ∈ Nat.toDigits 10 number) :
      IsShown character := by
    have digit := Text.isDigit_of_mem_decimal member
    simp only [Char.isDigit, Bool.and_eq_true, decide_eq_true_eq, ge_iff_le,
      UInt32.le_iff_toNat_le] at digit
    exact ⟨Nat.le_trans (by decide) digit.1, Nat.le_trans digit.2 (by decide)⟩
  cases value with
  | ofNat value =>
      rw [integerText, Numeral.toList_toString_ofNat] at member
      exact shown member
  | negSucc value =>
      rw [integerText, Numeral.toList_toString_negSucc] at member
      rcases List.mem_cons.mp member with rfl | member
      · decide
      · exact shown member

mutual

theorem isShown_of_mem_write (value : Json) (legible : value.IsLegible) :
    ∀ character ∈ value.write, IsShown character := by
  cases value with
  | null => exact fun _ => isShown_of_all (by decide)
  | boolean value => exact fun _ => isShown_of_all (by cases value <;> decide)
  | integer value => exact fun _ => isShown_of_mem_integerText
  | real value => exact legible.elim
  | string text => exact fun _ => isShown_of_mem_quotedText
  | array elements =>
      rw [write, List.cons_append, List.forall_mem_cons, List.forall_mem_append,
        List.forall_mem_singleton]
      exact ⟨by decide, isShown_of_mem_writeElements elements legible, by decide⟩
  | object members =>
      rw [write, List.cons_append, List.forall_mem_cons, List.forall_mem_append,
        List.forall_mem_singleton]
      exact ⟨by decide, isShown_of_mem_writeMembers members legible, by decide⟩

theorem isShown_of_mem_writeElements (elements : List Json) (legible : AreLegible elements) :
    ∀ character ∈ writeElements elements, IsShown character := by
  cases elements with
  | nil => exact List.forall_mem_nil _
  | cons first others =>
      have shown := isShown_of_mem_write first legible.1
      cases others with
      | nil => exact shown
      | cons second others =>
          rw [writeElements_cons, List.forall_mem_append, List.forall_mem_cons,
            List.forall_mem_cons]
          exact ⟨shown, by decide, by decide,
            isShown_of_mem_writeElements (second :: others) legible.2⟩

theorem isShown_of_mem_writeMembers (members : List (Text × Json))
    (legible : MembersLegible members) :
    ∀ character ∈ writeMembers members, IsShown character := by
  cases members with
  | nil => exact List.forall_mem_nil _
  | cons first others =>
      obtain ⟨name, value⟩ := first
      have named : ∀ character ∈ quotedText name, IsShown character :=
        fun _ => isShown_of_mem_quotedText
      have shown := isShown_of_mem_write value legible.2.1
      cases others with
      | nil =>
          rw [writeMembers, List.forall_mem_append, List.forall_mem_cons, List.forall_mem_cons]
          exact ⟨named, by decide, by decide, shown⟩
      | cons second others =>
          rw [writeMembers_cons, List.forall_mem_append, List.forall_mem_cons,
            List.forall_mem_cons, List.forall_mem_append, List.forall_mem_cons,
            List.forall_mem_cons]
          exact ⟨named, by decide, by decide, shown, by decide, by decide,
            isShown_of_mem_writeMembers (second :: others) legible.2.2⟩

end

end Argon2Workbench.Json
