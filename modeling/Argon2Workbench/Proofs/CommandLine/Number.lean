import Argon2Workbench.CommandLine.Parameters
import Argon2Workbench.Proofs.Number.Numeral

namespace Argon2Workbench

namespace Text

theorem characters?_scalar (character : Char) (rest : Text) :
    characters? (.scalar character :: rest) = (characters? rest).map (character :: ·) := by
  rw [characters?, List.mapM_cons]
  change ((characters? rest).bind fun others => some (character :: others)) = _
  cases characters? rest <;> rfl

theorem characters?_eq_some_iff {text : Text} {characters : List Char} :
    text.characters? = some characters ↔ text = characters.map .scalar := by
  induction text generalizing characters with
  | nil => cases characters <;> simp [characters?]
  | cons rune rest ih =>
      cases rune with
      | scalar character =>
          rw [characters?_scalar, Option.map_eq_some_iff]
          cases characters with
          | nil => simp
          | cons first others => simp [ih, and_comm]
      | stray byte => cases characters <;> simp [characters?, List.mapM_cons]
      | half unit => cases characters <;> simp [characters?, List.mapM_cons]

end Text

namespace CommandLine

open Numeral (Spelled digitLimit placed)
open Text (isBlank)

/-- The text is an integer of the grammar, with white space around it. -/
inductive Written : Text → Bool → List Nat → Prop
  | written {front numeral back : List Char} {negative : Bool} {digits : List Nat}
      (before : ∀ character ∈ front, isBlank character = true)
      (behind : ∀ character ∈ back, isBlank character = true)
      (spelled : Spelled numeral negative digits) :
      Written ((front ++ numeral ++ back).map .scalar) negative digits

theorem integer?_eq_some_iff {text : Text} {value : Int} :
    integer? text = some value ↔
      ∃ negative digits, Written text negative digits ∧ digits.length ≤ digitLimit ∧
        value = placed negative digits := by
  constructor
  · intro read
    obtain ⟨characters, plain, read⟩ := Option.bind_eq_some_iff.mp read
    obtain ⟨front, back, whole, before, behind⟩ := Text.exists_margins isBlank characters
    have accepted : Numeral.readInteger (Text.trim isBlank characters) = .ok value := by
      cases outcome : Numeral.readInteger (Text.trim isBlank characters) with
      | error error =>
          rw [outcome] at read
          contradiction
      | ok other =>
          rw [outcome] at read
          rw [Option.some.inj read]
    obtain ⟨negative, digits, spelled, short, same⟩ := Numeral.readInteger_eq_ok_iff.mp accepted
    have written := Written.written before behind spelled
    rw [← whole, ← Text.characters?_eq_some_iff.mp plain] at written
    exact ⟨negative, digits, written, short, same⟩
  · rintro ⟨negative, digits, ⟨before, behind, spelled⟩, short, same⟩
    have trimmed := Text.trim_margins before behind spelled.head_unblank spelled.getLast_unblank
      spelled.ne_nil
    have accepted := Numeral.readInteger_eq_ok_iff.mpr ⟨negative, digits, spelled, short, same⟩
    rw [integer?, Text.characters?_eq_some_iff.mpr rfl, Option.bind_eq_bind, Option.bind_some,
      trimmed, accepted]
    rfl

namespace Parameters

theorem number_eq_ok_iff {label text : Text} {value : Int} :
    number label text = .ok value ↔ integer? text = some value := by
  rw [number]
  cases integer? text with
  | none => simp
  | some other => simp

/-- A number is read from its numerals and from nothing else. Only the sign and the digits count
for its value: not the white space around them, the underscores between them, their script or
the zeros in front of them. -/
theorem number_reads_numerals (label text : Text) :
    (∀ value, number label text = .ok value ↔
      ∃ negative digits, Written text negative digits ∧ digits.length ≤ digitLimit ∧
        value = placed negative digits) ∧
    ((∀ negative digits, Written text negative digits → digitLimit < digits.length) →
      number label text = .error (.notANumber label text)) ∧
    (UsageError.notANumber label text).message =
      Text.ofString "invalid " ++ label ++ Text.ofString " value '" ++ text ++
        Text.ofString "'" ∧
    (∀ value : Int, value.natAbs < tenTo digitLimit →
      number label (Text.ofString (toString value)) = .ok value) ∧
    ∀ negative zeros digits, Written text negative (List.replicate zeros 0 ++ digits) →
      zeros + digits.length ≤ digitLimit → number label text = .ok (placed negative digits) := by
  refine ⟨fun value => ?_, fun long => ?_, rfl, fun value small => ?_, ?_⟩
  · rw [number_eq_ok_iff, integer?_eq_some_iff]
  · have unread : integer? text = none := by
      rw [Option.eq_none_iff_forall_ne_some]
      intro value read
      obtain ⟨negative, digits, written, short, -⟩ := integer?_eq_some_iff.mp read
      exact absurd short (Nat.not_le.mpr (long negative digits written))
    rw [number, unread]
  · obtain ⟨negative, spelled, same⟩ := Numeral.spelled_toString value
    have written : Written (Text.ofString (toString value)) negative
        (Numeral.decimalDigits value.natAbs) := by
      have bare := @Written.written [] _ [] _ _ nofun nofun spelled
      rwa [List.nil_append, List.append_nil] at bare
    rw [number_eq_ok_iff, integer?_eq_some_iff]
    exact ⟨negative, _, written, Numeral.length_decimalDigits_le (by decide) small, same.symm⟩
  · intro negative zeros digits written short
    rw [number_eq_ok_iff, integer?_eq_some_iff]
    refine ⟨negative, _, written, ?_, (Numeral.placed_zeros negative zeros digits).symm⟩
    rwa [List.length_append, List.length_replicate]

/-- An ideographic space, a sign, two Arabic digits with an underscore between them, a tab. -/
theorem margined_number_read :
    number "lanes" (Text.ofString "\u3000-\u0660_\u0663\t") = .ok (-3) ∧
      Written (Text.ofString "\u3000-\u0660_\u0663\t") true [0, 3] := by
  have written : Written (Text.ofString "\u3000-\u0660_\u0663\t") true [0, 3] :=
    @Written.written ['\u3000'] ['-', '\u0660', '_', '\u0663'] ['\t'] _ _
      (List.forall_mem_singleton.mpr (by decide)) (List.forall_mem_singleton.mpr (by decide))
      (.spelled .minus (.parted (by decide) (.last (by decide))))
  obtain ⟨-, -, -, -, valued⟩ :=
    number_reads_numerals "lanes" (Text.ofString "\u3000-\u0660_\u0663\t")
  exact ⟨valued true 1 [3] written (by decide), written⟩

end Parameters

end CommandLine

end Argon2Workbench
