import Argon2Workbench.Json.Reader
import Argon2Workbench.Json.Writer
import Mathlib.Data.List.Basic

namespace Argon2Workbench

namespace Text

theorem isHigh_iff {unit : Nat} : isHigh unit = true ↔ 0xd800 ≤ unit ∧ unit < 0xdc00 := by
  rw [isHigh, Bool.and_eq_true, decide_eq_true_eq, decide_eq_true_eq]

theorem isLow_iff {unit : Nat} : isLow unit = true ↔ 0xdc00 ≤ unit ∧ unit < 0xe000 := by
  rw [isLow, Bool.and_eq_true, decide_eq_true_eq, decide_eq_true_eq]

theorem ofUnits_cons {unit : Nat} (single : isHigh unit = false) (rest : List CodeUnit) :
    ofUnits (unit :: rest) = .ofUnit unit :: ofUnits rest := by
  cases rest <;> simp [ofUnits, single]

theorem ofUnit_toNat {character : Char} (plane : character.toNat < 0x10000) :
    isHigh character.toNat = false ∧ Rune.ofUnit character.toNat = .scalar character := by
  have valid : character.toNat < 0xd800 ∨ 0xdfff < character.toNat ∧ character.toNat < 0x110000 :=
    character.valid
  have single : isHigh character.toNat = false := by
    rw [Bool.eq_false_iff, ne_eq, isHigh_iff]
    omega
  have low : isLow character.toNat = false := by
    rw [Bool.eq_false_iff, ne_eq, isLow_iff]
    omega
  have apart : ¬ (0xdc80 ≤ character.toNat ∧ character.toNat < 0xdd00) := by omega
  exact ⟨single, by simp [Rune.ofUnit, apart, single, low, Char.ofNat_toNat]⟩

/-- A character of the first plane is one unit, and every other one is a pair. -/
theorem ofUnits_scalar (character : Char) (rest : List CodeUnit) :
    ofUnits (Rune.units (.scalar character) ++ rest) = .scalar character :: ofUnits rest := by
  have valid : character.toNat < 0xd800 ∨ 0xdfff < character.toNat ∧ character.toNat < 0x110000 :=
    character.valid
  by_cases plane : character.toNat < 0x10000
  · obtain ⟨single, scalar⟩ := ofUnit_toNat plane
    simp [Rune.units, Rune.code, unitsOf, plane, ofUnits_cons single, scalar]
  · let first : Nat := 0xd800 + (character.toNat - 0x10000) / 0x400
    let second : Nat := 0xdc00 + (character.toNat - 0x10000) % 0x400
    have high : isHigh first = true := isHigh_iff.mpr (by omega)
    have low : isLow second = true := isLow_iff.mpr (by omega)
    have joined : 0x10000 + (first - 0xd800) * 0x400 + (second - 0xdc00) = character.toNat := by
      omega
    have pair : Rune.units (.scalar character) = [first, second] := if_neg plane
    rw [pair, List.cons_append, List.singleton_append, ofUnits, if_pos (by simp [high, low])]
    exact congrArg (· :: ofUnits rest) (congrArg Rune.scalar (joined ▸ Char.ofNat_toNat character))

/-- No two runes of the text are read as one. -/
def IsJoined (text : Text) : Prop :=
  ofUnits text.units = text

theorem isJoined_ofString (text : String) : IsJoined (ofString text) := by
  rw [IsJoined, ofString]
  induction text.toList with
  | nil => rfl
  | cons character rest ih =>
      rw [List.map_cons, units, List.flatMap_cons, ofUnits_scalar]
      exact congrArg _ ih

theorem Rune.code_lt (rune : Rune) : rune.code < 0x110000 := by
  cases rune with
  | scalar character =>
      have valid : character.toNat < 0xd800 ∨
        0xdfff < character.toNat ∧ character.toNat < 0x110000 := character.valid
      simp only [Rune.code]
      omega
  | stray byte =>
      have small := byte.toNat_lt
      simp only [Rune.code]
      omega
  | half unit =>
      have small := unit.toNat_lt
      simp only [Rune.code]
      omega

theorem unit_lt {text : Text} {unit : Nat} (member : unit ∈ text.units) : unit < 0x10000 := by
  obtain ⟨rune, -, member⟩ := List.mem_flatMap.mp member
  have bound := rune.code_lt
  by_cases plane : rune.code < 0x10000
  · have single : unit = rune.code := by simpa [Rune.units, unitsOf, plane] using member
    omega
  · have pair : unit = 0xd800 + (rune.code - 0x10000) / 0x400 ∨
        unit = 0xdc00 + (rune.code - 0x10000) % 0x400 := by
      simpa [Rune.units, unitsOf, plane] using member
    omega

end Text

namespace Json

open Text (CodeUnit)

theorem hexValue?_hexDigit {value : Nat} (small : value < 16) :
    hexValue? (Bytes.hexDigit value) = some value := by
  revert value
  decide

theorem hexDigits_four (unit : Nat) :
    Text.hexDigits 4 unit =
      [Bytes.hexDigit (unit / 16 / 16 / 16 % 16), Bytes.hexDigit (unit / 16 / 16 % 16),
       Bytes.hexDigit (unit / 16 % 16), Bytes.hexDigit (unit % 16)] := by
  simp [Text.hexDigits]

theorem unitOf?_hexDigits {unit : Nat} (small : unit < 0x10000) :
    unitOf? (Bytes.hexDigit (unit / 16 / 16 / 16 % 16)) (Bytes.hexDigit (unit / 16 / 16 % 16))
      (Bytes.hexDigit (unit / 16 % 16)) (Bytes.hexDigit (unit % 16)) = some unit := by
  have bound (value : Nat) : value % 16 < 16 := Nat.mod_lt value (by decide)
  have whole : ((unit / 16 / 16 / 16 % 16 * 16 + unit / 16 / 16 % 16) * 16 + unit / 16 % 16) * 16 +
      unit % 16 = unit := by omega
  simp [unitOf?, hexValue?_hexDigit (bound _), whole]

theorem readUnits_plain {character : Char} (quote : character ≠ '"') (escape : character ≠ '\\')
    (shown : ¬ character < ' ') (rest : List Char) :
    readUnits (character :: rest) =
      (readUnits rest).map fun (units, remaining) =>
        (Text.Rune.units (.scalar character) ++ units, remaining) := by
  rw [readUnits.eq_def]
  split
  · contradiction
  · simp_all
  · simp_all
  · simp_all
  · next same =>
      cases same
      rw [if_neg (by simp [escape, shown])]
      cases readUnits rest <;> rfl

theorem readUnits_escape {escape : Char} {unit : Nat} (known : escapedBy? escape = some unit)
    (rest : List Char) :
    readUnits ('\\' :: escape :: rest) =
      (readUnits rest).map fun (units, remaining) => (unit :: units, remaining) := by
  have numbered : escape ≠ 'u' := by
    rintro rfl
    contradiction
  rw [readUnits.eq_def]
  split
  · contradiction
  · simp_all
  · simp_all
  · next same =>
      cases same
      rw [known]
      cases readUnits rest <;> rfl
  · next apart same =>
      cases same
      exact absurd rfl (apart escape rest rfl)

theorem readUnits_numbered {unit : Nat} (small : unit < 0x10000) (rest : List Char) :
    readUnits ('\\' :: 'u' :: Text.hexDigits 4 unit ++ rest) =
      (readUnits rest).map fun (units, remaining) => (unit :: units, remaining) := by
  rw [hexDigits_four]
  simp only [List.cons_append, List.nil_append, readUnits, unitOf?_hexDigits small]
  cases readUnits rest <;> rfl

theorem toNat_ofNat_of_shown {code : Nat} (shown : 0x20 ≤ code ∧ code ≤ 0x7e) :
    (Char.ofNat code).toNat = code := by
  have known : ∀ code < 0x7f, (Char.ofNat code).toNat = code := by decide
  exact known code (by omega)

/-- Whatever it looks like, a unit is read as itself. -/
theorem readUnits_escapedUnit {unit : Nat} (small : unit < 0x10000) (rest : List Char) :
    readUnits (escapedUnit unit ++ rest) =
      (readUnits rest).map fun (units, remaining) => (unit :: units, remaining) := by
  unfold escapedUnit
  split_ifs with quote backslash shown feed carriage tab backspace form
  · exact readUnits_escape (by rw [quote]; rfl) rest
  · exact readUnits_escape (by rw [backslash]; rfl) rest
  · have bounds : 0x20 ≤ unit ∧ unit ≤ 0x7e := by simpa using shown
    have code := toNat_ofNat_of_shown bounds
    have notQuote : Char.ofNat unit ≠ '"' := fun same => quote (by rw [← code, same]; rfl)
    have notEscape : Char.ofNat unit ≠ '\\' := fun same => backslash (by rw [← code, same]; rfl)
    have notControl : ¬ Char.ofNat unit < ' ' := by
      rw [Char.lt_def, UInt32.lt_iff_toNat_lt]
      change ¬ (Char.ofNat unit).toNat < 0x20
      omega
    have single : Text.Rune.units (.scalar (Char.ofNat unit)) = [unit] := by
      simp [Text.Rune.units, Text.Rune.code, Text.unitsOf, code, small]
    rw [List.singleton_append, readUnits_plain notQuote notEscape notControl, single]
    rfl
  · exact readUnits_escape (by rw [feed]; rfl) rest
  · exact readUnits_escape (by rw [carriage]; rfl) rest
  · exact readUnits_escape (by rw [tab]; rfl) rest
  · exact readUnits_escape (by rw [backspace]; rfl) rest
  · exact readUnits_escape (by rw [form]; rfl) rest
  · exact readUnits_numbered small rest

theorem readUnits_escapedUnits {units : List CodeUnit} (small : ∀ unit ∈ units, unit < 0x10000)
    (rest : List Char) :
    readUnits (units.flatMap escapedUnit ++ '"' :: rest) = some (units, rest) := by
  induction units with
  | nil => rfl
  | cons unit units ih =>
      rw [List.flatMap_cons, List.append_assoc,
        readUnits_escapedUnit (small unit List.mem_cons_self),
        ih fun other member => small other (List.mem_cons_of_mem unit member)]
      rfl

theorem readText_escaped {text : Text} (joined : text.IsJoined) (rest : List Char) :
    readText (text.units.flatMap escapedUnit ++ '"' :: rest) = some (text, rest) := by
  rw [readText, readUnits_escapedUnits (fun _ => Text.unit_lt)]
  exact congrArg (fun read => some (read, rest)) joined

def IsShown (character : Char) : Prop :=
  ' ' ≤ character ∧ character ≤ '~'

instance : DecidablePred IsShown :=
  fun _ => inferInstanceAs (Decidable (_ ∧ _))

theorem isShown_of_all {characters : List Char} {character : Char}
    (all : characters.all (IsShown ·) = true) (member : character ∈ characters) :
    IsShown character :=
  of_decide_eq_true (List.all_eq_true.mp all character member)

theorem isShown_ofNat {code : Nat} (shown : 0x20 ≤ code ∧ code ≤ 0x7e) :
    IsShown (Char.ofNat code) := by
  have known : ∀ code < 0x7f, 0x20 ≤ code → IsShown (Char.ofNat code) := by decide
  exact known code (by omega) shown.1

theorem isShown_hexDigit {value : Nat} (small : value < 16) : IsShown (Bytes.hexDigit value) := by
  revert value
  decide

theorem isShown_of_mem_escapedUnit {unit : Nat} {character : Char}
    (member : character ∈ escapedUnit unit) : IsShown character := by
  unfold escapedUnit at member
  split_ifs at member with quote backslash shown feed carriage tab backspace form
  · exact isShown_of_all (by decide) member
  · exact isShown_of_all (by decide) member
  · rw [List.mem_singleton.mp member]
    exact isShown_ofNat (by simpa using shown)
  · exact isShown_of_all (by decide) member
  · exact isShown_of_all (by decide) member
  · exact isShown_of_all (by decide) member
  · exact isShown_of_all (by decide) member
  · exact isShown_of_all (by decide) member
  · rw [hexDigits_four] at member
    have bound (value : Nat) : value % 16 < 16 := Nat.mod_lt value (by decide)
    simp only [List.mem_cons, List.not_mem_nil, or_false] at member
    rcases member with rfl | rfl | rfl | rfl | rfl | rfl
    · decide
    · decide
    · exact isShown_hexDigit (bound _)
    · exact isShown_hexDigit (bound _)
    · exact isShown_hexDigit (bound _)
    · exact isShown_hexDigit (bound _)

theorem isShown_of_mem_quotedText {text : Text} {character : Char}
    (member : character ∈ quotedText text) : IsShown character := by
  simp only [quotedText, List.cons_append, List.mem_cons, List.mem_append, List.mem_flatMap,
    List.not_mem_nil, or_false] at member
  rcases member with rfl | ⟨unit, -, member⟩ | rfl
  · decide
  · exact isShown_of_mem_escapedUnit member
  · decide

end Json

end Argon2Workbench
