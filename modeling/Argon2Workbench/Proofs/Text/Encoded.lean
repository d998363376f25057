import Argon2Workbench.Proofs.Text.Pieces

namespace Argon2Workbench.Text

namespace Utf8

variable {byte second : UInt8}

theorem lead?_two (low : 0xc2 ≤ byte.toNat) (high : byte.toNat ≤ 0xdf)
    (tail : 0x80 ≤ second.toNat ∧ second.toNat ≤ 0xbf) :
    ∃ lead, lead? byte = some lead ∧ lead.bits = byte.toNat - 0xc0 ∧ lead.more = 0 ∧
      within lead.low lead.high second = true := by
  simp only [lead?, UInt8.lt_iff_toNat_lt, UInt8.le_iff_toNat_le, UInt8.reduceToNat]
  rw [if_neg (by omega), if_pos high]
  exact ⟨_, rfl, rfl, rfl, within_iff.mpr tail⟩

theorem lead?_three (low : 0xe0 ≤ byte.toNat) (high : byte.toNat ≤ 0xef)
    (tail : 0x80 ≤ second.toNat ∧ second.toNat ≤ 0xbf)
    (shortest : byte.toNat = 0xe0 → 0xa0 ≤ second.toNat)
    (scalar : byte.toNat = 0xed → second.toNat ≤ 0x9f) :
    ∃ lead, lead? byte = some lead ∧ lead.bits = byte.toNat - 0xe0 ∧ lead.more = 1 ∧
      within lead.low lead.high second = true := by
  simp only [lead?, UInt8.lt_iff_toNat_lt, UInt8.le_iff_toNat_le, ← UInt8.toNat_inj,
    UInt8.reduceToNat]
  rw [if_neg (by omega), if_neg (by omega)]
  by_cases first : byte.toNat = 0xe0
  · rw [if_pos first]
    exact ⟨_, rfl, by simp [first], rfl, within_iff.mpr ⟨shortest first, tail.2⟩⟩
  rw [if_neg first]
  by_cases before : byte.toNat = 0xed
  · rw [if_pos before]
    exact ⟨_, rfl, by simp [before], rfl, within_iff.mpr ⟨tail.1, scalar before⟩⟩
  rw [if_neg before, if_pos high]
  exact ⟨_, rfl, rfl, rfl, within_iff.mpr tail⟩

theorem lead?_four (low : 0xf0 ≤ byte.toNat) (high : byte.toNat ≤ 0xf4)
    (tail : 0x80 ≤ second.toNat ∧ second.toNat ≤ 0xbf)
    (shortest : byte.toNat = 0xf0 → 0x90 ≤ second.toNat)
    (scalar : byte.toNat = 0xf4 → second.toNat ≤ 0x8f) :
    ∃ lead, lead? byte = some lead ∧ lead.bits = byte.toNat - 0xf0 ∧ lead.more = 2 ∧
      within lead.low lead.high second = true := by
  simp only [lead?, UInt8.lt_iff_toNat_lt, UInt8.le_iff_toNat_le, ← UInt8.toNat_inj,
    UInt8.reduceToNat]
  rw [if_neg (by omega), if_neg (by omega), if_neg (by omega), if_neg (by omega),
    if_neg (by omega)]
  by_cases first : byte.toNat = 0xf0
  · rw [if_pos first]
    exact ⟨_, rfl, by simp [first], rfl, within_iff.mpr ⟨shortest first, tail.2⟩⟩
  rw [if_neg first]
  by_cases before : byte.toNat ≤ 0xf3
  · rw [if_pos before]
    exact ⟨_, rfl, rfl, rfl, within_iff.mpr tail⟩
  have last : byte.toNat = 0xf4 := by omega
  rw [if_neg before, if_pos last]
  exact ⟨_, rfl, by simp [last], rfl, within_iff.mpr ⟨tail.1, scalar last⟩⟩

section

variable {first third fourth : UInt8} {lead : Lead} {rest : Bytes}

theorem pieces_ascii (ascii : first.toNat < 0x80) :
    pieces (first :: rest) = .char (Char.ofNat first.toNat) :: pieces rest := by
  rw [pieces, if_pos (UInt8.lt_iff_toNat_lt.mpr ascii)]

variable (wide : 0x80 ≤ first.toNat) (found : lead? first = some lead)
  (next : within lead.low lead.high second = true)

include wide found next

theorem pieces_two (last : lead.more = 0) :
    pieces (first :: second :: rest) =
      .char (Char.ofNat (joined lead.bits second)) :: pieces rest := by
  have other : ¬ first < 0x80 := by simpa [UInt8.lt_iff_toNat_lt] using wide
  rw [pieces, if_neg other, found]
  dsimp only
  rw [if_neg (by simp [next]), if_pos last]

theorem pieces_three (last : lead.more = 1) (tail : within 0x80 0xbf third = true) :
    pieces (first :: second :: third :: rest) =
      .char (Char.ofNat (joined (joined lead.bits second) third)) :: pieces rest := by
  have other : ¬ first < 0x80 := by simpa [UInt8.lt_iff_toNat_lt] using wide
  rw [pieces, if_neg other, found]
  dsimp only
  rw [if_neg (by simp [next]), if_neg (by omega), if_neg (by simp [tail]), if_pos last]

theorem pieces_four (last : lead.more = 2) (between : within 0x80 0xbf third = true)
    (tail : within 0x80 0xbf fourth = true) :
    pieces (first :: second :: third :: fourth :: rest) =
      .char (Char.ofNat (joined (joined (joined lead.bits second) third) fourth)) ::
        pieces rest := by
  have other : ¬ first < 0x80 := by simpa [UInt8.lt_iff_toNat_lt] using wide
  rw [pieces, if_neg other, found]
  dsimp only
  rw [if_neg (by simp [next]), if_neg (by omega), if_neg (by simp [between]), if_neg (by omega),
    if_neg (by simp [tail])]

end

section

variable {code : Nat}

/-- A byte behind the first one carries six bits. -/
theorem toNat_tail (code : Nat) : (UInt8.ofNat (code % 64 + 128)).toNat = code % 64 + 128 :=
  UInt8.toNat_ofNat_of_lt' (by omega : code % 64 + 128 < 0x100)

theorem within_tail (code : Nat) : within 0x80 0xbf (UInt8.ofNat (code % 64 + 128)) = true := by
  rw [within_iff, toNat_tail]
  simp only [UInt8.reduceToNat]
  omega

theorem joined_tail (bits code : Nat) :
    joined bits (UInt8.ofNat (code % 64 + 128)) = bits * 64 + code % 64 := by
  rw [joined, toNat_tail]
  omega

variable (rest : Bytes)

theorem pieces_below_0x800 (low : 0x80 ≤ code) (high : code ≤ 0x7ff) :
    pieces (UInt8.ofNat (code / 64 % 32 + 192) :: UInt8.ofNat (code % 64 + 128) :: rest) =
      .char (Char.ofNat code) :: pieces rest := by
  have first := UInt8.toNat_ofNat_of_lt' (by omega : code / 64 % 32 + 192 < 0x100)
  have second := toNat_tail code
  obtain ⟨lead, found, bits, last, next⟩ := lead?_two
    (by omega : 0xc2 ≤ (UInt8.ofNat (code / 64 % 32 + 192)).toNat) (by omega)
    (by omega : 0x80 ≤ (UInt8.ofNat (code % 64 + 128)).toNat ∧ _)
  have whole : lead.bits * 64 + code % 64 = code := by omega
  rw [pieces_two (by omega) found next last, joined_tail, whole]

theorem pieces_below_0x10000 (low : 0x800 ≤ code) (high : code ≤ 0xffff)
    (scalar : code < 0xd800 ∨ 0xdfff < code) :
    pieces (UInt8.ofNat (code / 4096 % 16 + 224) :: UInt8.ofNat (code / 64 % 64 + 128) ::
        UInt8.ofNat (code % 64 + 128) :: rest) =
      .char (Char.ofNat code) :: pieces rest := by
  have first := UInt8.toNat_ofNat_of_lt' (by omega : code / 4096 % 16 + 224 < 0x100)
  have second := toNat_tail (code / 64)
  obtain ⟨lead, found, bits, last, next⟩ := lead?_three
    (by omega : 0xe0 ≤ (UInt8.ofNat (code / 4096 % 16 + 224)).toNat) (by omega)
    (by omega : 0x80 ≤ (UInt8.ofNat (code / 64 % 64 + 128)).toNat ∧ _) (by omega) (by omega)
  have whole : (lead.bits * 64 + code / 64 % 64) * 64 + code % 64 = code := by omega
  rw [pieces_three (by omega) found next last (within_tail code), joined_tail, joined_tail, whole]

theorem pieces_below_0x110000 (low : 0x10000 ≤ code) (high : code < 0x110000) :
    pieces (UInt8.ofNat (code / 262144 % 8 + 240) :: UInt8.ofNat (code / 4096 % 64 + 128) ::
        UInt8.ofNat (code / 64 % 64 + 128) :: UInt8.ofNat (code % 64 + 128) :: rest) =
      .char (Char.ofNat code) :: pieces rest := by
  have first := UInt8.toNat_ofNat_of_lt' (by omega : code / 262144 % 8 + 240 < 0x100)
  have second := toNat_tail (code / 4096)
  obtain ⟨lead, found, bits, last, next⟩ := lead?_four
    (by omega : 0xf0 ≤ (UInt8.ofNat (code / 262144 % 8 + 240)).toNat) (by omega)
    (by omega : 0x80 ≤ (UInt8.ofNat (code / 4096 % 64 + 128)).toNat ∧ _) (by omega) (by omega)
  have whole :
      ((lead.bits * 64 + code / 4096 % 64) * 64 + code / 64 % 64) * 64 + code % 64 = code := by
    omega
  rw [pieces_four (by omega) found next last (within_tail (code / 64)) (within_tail code),
    joined_tail, joined_tail, joined_tail, whole]

end

/-- The bytes of a character are one piece, whatever follows them. -/
theorem pieces_encoded (character : Char) (rest : Bytes) :
    pieces (String.utf8EncodeChar character ++ rest) = .char character :: pieces rest := by
  have valid : character.val.toNat < 0xd800 ∨
      0xdfff < character.val.toNat ∧ character.val.toNat < 0x110000 := character.valid
  have same : Char.ofNat character.val.toNat = character := Char.ofNat_toNat character
  simp only [String.utf8EncodeChar]
  generalize character.val.toNat = code at valid same
  split_ifs with one two three <;> simp only [List.cons_append, List.nil_append]
  · have first := UInt8.toNat_ofNat_of_lt' (by omega : code < 0x100)
    rw [pieces_ascii (by omega), first, same]
  · rw [pieces_below_0x800 rest (by omega) two, same]
  · rw [pieces_below_0x10000 rest (by omega) three (by omega), same]
  · rw [pieces_below_0x110000 rest (by omega) (by omega), same]

theorem pieces_characters (characters : List Char) :
    pieces (characters.flatMap String.utf8EncodeChar) = characters.map .char := by
  induction characters with
  | nil => rfl
  | cons character rest ih => rw [List.flatMap_cons, pieces_encoded, ih, List.map_cons]

theorem pieces_utf8 (text : String) : pieces (utf8 text) = text.toList.map .char :=
  pieces_characters text.toList

theorem firstMalformed_characters (position : Nat) (characters : List Char) :
    firstMalformed position (characters.map .char) = none := by
  induction characters generalizing position with
  | nil => rfl
  | cons character rest ih => exact ih (position + character.utf8Size)

theorem decodeReplacing_utf8 (text : String) : decodeReplacing (utf8 text) = text := by
  simp [decodeReplacing, pieces_utf8, Function.comp_def]

end Utf8

theorem strictBytes_ofString (text : String) : (ofString text).strictBytes = .ok (utf8 text) := by
  have scalar : (ofString text).findIdx? (fun rune => !rune.isScalar) = none := by
    rw [List.findIdx?_eq_none_iff, ofString]
    intro rune member
    obtain ⟨character, -, rfl⟩ := List.mem_map.mp member
    rfl
  rw [strictBytes, unencodable?, scalar, bytes_ofString]

end Argon2Workbench.Text
