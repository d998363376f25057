import Argon2Workbench.Proofs.Text.Received
import Mathlib.Tactic.SplitIfs

namespace Argon2Workbench.Text

namespace Utf8

def Piece.bytes : Piece → Bytes
  | char character => String.utf8EncodeChar character
  | malformed _ bytes => bytes

variable {first second third fourth low high : UInt8} {lead : Lead}

theorem toNat_val_ofNat {code : Nat} (valid : code.isValidChar) :
    (Char.ofNat code).val.toNat = code := by
  rw [Char.ofNat, dif_pos valid]
  rfl

theorem within_iff {low high byte : UInt8} :
    within low high byte = true ↔ low.toNat ≤ byte.toNat ∧ byte.toNat ≤ high.toNat := by
  simp [within, UInt8.le_iff_toNat_le]

/-- A leading byte and the byte after it, by the number of bytes that follow them. -/
theorem lead_cases (found : lead? first = some lead)
    (fits : within lead.low lead.high second = true) :
    0x80 ≤ second.toNat ∧ second.toNat ≤ 0xbf ∧
      ((lead.more = 0 ∧ lead.bits = first.toNat - 0xc0 ∧
          0xc2 ≤ first.toNat ∧ first.toNat ≤ 0xdf) ∨
       (lead.more = 1 ∧ lead.bits = first.toNat - 0xe0 ∧
          0xe0 ≤ first.toNat ∧ first.toNat ≤ 0xef ∧
          (first.toNat ≠ 0xe0 ∨ 0xa0 ≤ second.toNat) ∧
          (first.toNat ≠ 0xed ∨ second.toNat ≤ 0x9f)) ∨
       (lead.more = 2 ∧ lead.bits = first.toNat - 0xf0 ∧
          0xf0 ≤ first.toNat ∧ first.toNat ≤ 0xf4 ∧
          (first.toNat ≠ 0xf0 ∨ 0x90 ≤ second.toNat) ∧
          (first.toNat ≠ 0xf4 ∨ second.toNat ≤ 0x8f))) := by
  rw [within_iff] at fits
  simp only [lead?, UInt8.lt_iff_toNat_lt, UInt8.le_iff_toNat_le, ← UInt8.toNat_inj,
    UInt8.reduceToNat] at found
  split_ifs at found <;> obtain rfl := Option.some.inj found <;>
    simp only [UInt8.reduceToNat, true_and] at fits ⊢ <;> omega

variable {code : Nat}

theorem encode_one (same : code = first.toNat) (ascii : first.toNat < 0x80) :
    String.utf8EncodeChar (Char.ofNat code) = [first] := by
  have valid : code.isValidChar := .inl (by omega)
  simp only [String.utf8EncodeChar, toNat_val_ofNat valid]
  rw [if_pos (by omega), same, UInt8.ofNat_toNat]

theorem encode_two (same : code = (first.toNat - 0xc0) * 64 + second.toNat % 64)
    (lead : 0xc2 ≤ first.toNat ∧ first.toNat ≤ 0xdf)
    (tail : 0x80 ≤ second.toNat ∧ second.toNat ≤ 0xbf) :
    String.utf8EncodeChar (Char.ofNat code) = [first, second] := by
  have valid : code.isValidChar := .inl (by omega)
  simp only [String.utf8EncodeChar, toNat_val_ofNat valid]
  rw [if_neg (by omega), if_pos (by omega)]
  simp only [List.cons.injEq, ← UInt8.toNat_inj, UInt8.toNat_ofNat', and_true]
  omega

theorem encode_three
    (same : code = ((first.toNat - 0xe0) * 64 + second.toNat % 64) * 64 + third.toNat % 64)
    (lead : 0xe0 ≤ first.toNat ∧ first.toNat ≤ 0xef)
    (next : 0x80 ≤ second.toNat ∧ second.toNat ≤ 0xbf)
    (shortest : first.toNat ≠ 0xe0 ∨ 0xa0 ≤ second.toNat)
    (scalar : first.toNat ≠ 0xed ∨ second.toNat ≤ 0x9f)
    (tail : 0x80 ≤ third.toNat ∧ third.toNat ≤ 0xbf) :
    String.utf8EncodeChar (Char.ofNat code) = [first, second, third] := by
  have valid : code.isValidChar := by
    rw [Nat.isValidChar]
    omega
  simp only [String.utf8EncodeChar, toNat_val_ofNat valid]
  rw [if_neg (by omega), if_neg (by omega), if_pos (by omega)]
  simp only [List.cons.injEq, ← UInt8.toNat_inj, UInt8.toNat_ofNat', and_true]
  omega

theorem encode_four
    (same : code = (((first.toNat - 0xf0) * 64 + second.toNat % 64) * 64 + third.toNat % 64) * 64 +
      fourth.toNat % 64)
    (lead : 0xf0 ≤ first.toNat ∧ first.toNat ≤ 0xf4)
    (next : 0x80 ≤ second.toNat ∧ second.toNat ≤ 0xbf)
    (shortest : first.toNat ≠ 0xf0 ∨ 0x90 ≤ second.toNat)
    (scalar : first.toNat ≠ 0xf4 ∨ second.toNat ≤ 0x8f)
    (between : 0x80 ≤ third.toNat ∧ third.toNat ≤ 0xbf)
    (tail : 0x80 ≤ fourth.toNat ∧ fourth.toNat ≤ 0xbf) :
    String.utf8EncodeChar (Char.ofNat code) = [first, second, third, fourth] := by
  have valid : code.isValidChar := by
    rw [Nat.isValidChar]
    omega
  simp only [String.utf8EncodeChar, toNat_val_ofNat valid]
  rw [if_neg (by omega), if_neg (by omega), if_neg (by omega)]
  simp only [List.cons.injEq, ← UInt8.toNat_inj, UInt8.toNat_ofNat', and_true]
  omega

theorem within_of_not (fits : ¬ (!within low high first) = true) :
    within low high first = true := by
  simpa using fits

/-- The bytes of all pieces are the bytes that were divided. -/
theorem flatMap_pieces (bytes : Bytes) : (pieces bytes).flatMap Piece.bytes = bytes := by
  fun_induction pieces bytes with
  | case1 => rfl
  | case2 first rest ascii ih =>
      have character := encode_one rfl (UInt8.lt_iff_toNat_lt.mp ascii)
      rw [List.flatMap_cons, ih, Piece.bytes, character, List.singleton_append]
  | case3 first rest _ _ ih => exact congrArg (first :: ·) ih
  | case4 first => rfl
  | case5 first _ lead _ second rest _ ih => exact congrArg (first :: ·) ih
  | case6 first _ lead found second rest fits none ih =>
      have shape := lead_cases found (within_of_not fits)
      have character : String.utf8EncodeChar (Char.ofNat (joined lead.bits second)) =
          [first, second] :=
        encode_two (by rw [joined]; omega) (by omega) (by omega)
      rw [List.flatMap_cons, ih, Piece.bytes, character]
      rfl
  | case7 first _ lead _ second => rfl
  | case8 first _ lead _ second _ _ third rest _ ih =>
      exact congrArg (first :: second :: ·) ih
  | case9 first _ lead found second fits some third rest tail one ih =>
      have shape := lead_cases found (within_of_not fits)
      have last : 0x80 ≤ third.toNat ∧ third.toNat ≤ 0xbf := within_iff.mp (within_of_not tail)
      have character :
          String.utf8EncodeChar (Char.ofNat (joined (joined lead.bits second) third)) =
            [first, second, third] :=
        encode_three (by rw [joined, joined]; omega) (by omega) (by omega) (by omega) (by omega)
          last
      rw [List.flatMap_cons, ih, Piece.bytes, character]
      rfl
  | case10 first _ lead _ second _ _ third => rfl
  | case11 first _ lead _ second _ _ third _ _ fourth rest _ ih =>
      exact congrArg (first :: second :: third :: ·) ih
  | case12 first _ lead found second fits some third between other fourth rest tail code ih =>
      have shape := lead_cases found (within_of_not fits)
      have inner : 0x80 ≤ third.toNat ∧ third.toNat ≤ 0xbf :=
        within_iff.mp (within_of_not between)
      have last : 0x80 ≤ fourth.toNat ∧ fourth.toNat ≤ 0xbf := within_iff.mp (within_of_not tail)
      have character : String.utf8EncodeChar (Char.ofNat code) = [first, second, third, fourth] :=
        encode_four (by simp only [code, joined]; omega) (by omega) (by omega) (by omega)
          (by omega) inner last
      rw [List.flatMap_cons, ih, Piece.bytes, character]
      rfl

end Utf8

/-- Bytes that were read as text are there again when the text is handed on. -/
theorem bytes_ofBytes (bytes : Bytes) : (ofBytes bytes).bytes = bytes := by
  have whole := Utf8.flatMap_pieces bytes
  rw [ofBytes, Text.bytes, List.flatMap_assoc]
  refine Eq.trans ?_ whole
  refine congrArg (List.flatMap · _) (funext fun piece => ?_)
  cases piece with
  | char character => simp [Utf8.Piece.bytes]
  | malformed defect strays => simp [Utf8.Piece.bytes, List.flatMap_map]

end Argon2Workbench.Text
