import Argon2Workbench.Bytes
import Argon2Workbench.Number.Power

namespace Argon2Workbench

namespace Text

def decimal? (characters : List Char) : Option Nat :=
  if !characters.isEmpty && characters.all Char.isDigit then
    some (Nat.ofDigitChars 10 characters 0)
  else none

theorem isDigit_of_mem_decimal {value : Nat} {character : Char}
    (member : character ∈ Nat.toDigits 10 value) : character.isDigit = true :=
  Nat.isDigit_of_mem_toDigits (by decide) (by decide) member

theorem not_mem_toDigits {character : Char} (other : character.isDigit = false) (value : Nat) :
    character ∉ Nat.toDigits 10 value := by
  intro member
  rw [isDigit_of_mem_decimal member] at other
  contradiction

theorem decimal?_toDigits (value : Nat) : decimal? (Nat.toDigits 10 value) = some value := by
  have digits : (Nat.toDigits 10 value).all Char.isDigit = true := by
    rw [List.all_eq_true]
    exact fun character member => isDigit_of_mem_decimal member
  have written : (Nat.toDigits 10 value).isEmpty = false := by
    simp [Nat.toDigits_ne_nil]
  rw [decimal?, if_pos (by simp [digits, written]), Nat.ofDigitChars_ten_toDigits]

theorem length_toDigits_le {value count : Nat} (positive : 0 < count)
    (bound : value < tenTo count) : (Nat.toDigits 10 value).length ≤ count :=
  (Nat.length_toDigits_le_iff (by decide) positive).mpr bound

/-- A number at the front of a text, and the text behind it. -/
def number? (text : List Char) : Option (Nat × List Char) :=
  (decimal? (text.takeWhile Char.isDigit)).map fun value => (value, text.dropWhile Char.isDigit)

theorem number?_toDigits (value : Nat) {rest : List Char}
    (stop : rest.head?.all (!·.isDigit) = true) :
    number? (Nat.toDigits 10 value ++ rest) = some (value, rest) := by
  have digits : ∀ character ∈ Nat.toDigits 10 value, character.isDigit = true :=
    fun _ member => isDigit_of_mem_decimal member
  have taken : rest.takeWhile Char.isDigit = [] ∧ rest.dropWhile Char.isDigit = rest := by
    cases rest with
    | nil => exact ⟨rfl, rfl⟩
    | cons mark rest =>
        have other : mark.isDigit = false := by simpa using stop
        simp [other]
  rw [number?, List.takeWhile_append_of_pos digits, List.dropWhile_append_of_pos digits, taken.1,
    taken.2, List.append_nil, decimal?_toDigits]
  rfl

end Text

namespace Bytes

/-- The six bits of a symbol. -/
theorem symbol_of_mem_base64 {bytes : Bytes} {character : Char} (member : character ∈ bytes.base64) :
    ∃ value, value < 64 ∧ character = symbol value := by
  fun_induction base64 bytes with
  | case1 => contradiction
  | case2 a =>
      have boundA := a.toNat_lt
      simp only [List.mem_cons, List.not_mem_nil, or_false] at member
      rcases member with rfl | rfl <;> exact ⟨_, by omega, rfl⟩
  | case3 a b =>
      have boundA := a.toNat_lt
      have boundB := b.toNat_lt
      simp only [List.mem_cons, List.not_mem_nil, or_false] at member
      rcases member with rfl | rfl | rfl <;> exact ⟨_, by omega, rfl⟩
  | case4 a b c rest ih =>
      have boundA := a.toNat_lt
      have boundB := b.toNat_lt
      have boundC := c.toNat_lt
      simp only [List.mem_cons] at member
      rcases member with rfl | rfl | rfl | rfl | member
      · exact ⟨_, by omega, rfl⟩
      · exact ⟨_, by omega, rfl⟩
      · exact ⟨_, by omega, rfl⟩
      · exact ⟨_, by omega, rfl⟩
      · exact ih member

theorem not_mem_base64 {character : Char} (other : ∀ value < 64, character ≠ symbol value)
    (bytes : Bytes) : character ∉ bytes.base64 := by
  intro member
  obtain ⟨value, small, same⟩ := symbol_of_mem_base64 member
  exact other value small same

theorem ofBase64?_base64 (bytes : Bytes) : ofBase64? bytes.base64 = some bytes := by
  fun_induction base64 bytes with
  | case1 => rfl
  | case2 a =>
      have bound := a.toNat_lt
      have p := symbolValue?_symbol (by omega : a.toNat / 4 < 64)
      have q := symbolValue?_symbol (by omega : a.toNat % 4 * 16 < 64)
      have spare : a.toNat % 4 * 16 % 16 = 0 := by omega
      have first : a.toNat / 4 * 4 + a.toNat % 4 * 16 / 16 = a.toNat := by omega
      simp only [ofBase64?, p, q, Option.bind_eq_bind, Option.bind_some, if_pos spare, first,
        UInt8.ofNat_toNat]
      rfl
  | case3 a b =>
      have boundA := a.toNat_lt
      have boundB := b.toNat_lt
      have p := symbolValue?_symbol (by omega : a.toNat / 4 < 64)
      have q := symbolValue?_symbol (by omega : a.toNat % 4 * 16 + b.toNat / 16 < 64)
      have r := symbolValue?_symbol (by omega : b.toNat % 16 * 4 < 64)
      have spare : b.toNat % 16 * 4 % 4 = 0 := by omega
      have first : a.toNat / 4 * 4 + (a.toNat % 4 * 16 + b.toNat / 16) / 16 = a.toNat := by omega
      have second : (a.toNat % 4 * 16 + b.toNat / 16) % 16 * 16 + b.toNat % 16 * 4 / 4 =
          b.toNat := by omega
      simp only [ofBase64?, p, q, r, Option.bind_eq_bind, Option.bind_some, if_pos spare, first,
        second, UInt8.ofNat_toNat]
      rfl
  | case4 a b c rest ih =>
      have boundA := a.toNat_lt
      have boundB := b.toNat_lt
      have boundC := c.toNat_lt
      have p := symbolValue?_symbol (by omega : a.toNat / 4 < 64)
      have q := symbolValue?_symbol (by omega : a.toNat % 4 * 16 + b.toNat / 16 < 64)
      have r := symbolValue?_symbol (by omega : b.toNat % 16 * 4 + c.toNat / 64 < 64)
      have s := symbolValue?_symbol (by omega : c.toNat % 64 < 64)
      have first : a.toNat / 4 * 4 + (a.toNat % 4 * 16 + b.toNat / 16) / 16 = a.toNat := by omega
      have second : (a.toNat % 4 * 16 + b.toNat / 16) % 16 * 16 +
          (b.toNat % 16 * 4 + c.toNat / 64) / 4 = b.toNat := by omega
      have third : (b.toNat % 16 * 4 + c.toNat / 64) % 4 * 64 + c.toNat % 64 = c.toNat := by omega
      simp only [ofBase64?, p, q, r, s, ih, Option.bind_eq_bind, Option.bind_some, first, second,
        third, UInt8.ofNat_toNat]
      rfl

/-- Four symbols for three bytes, without padding behind the last ones. -/
theorem length_base64 (bytes : Bytes) : bytes.base64.length = (4 * bytes.length + 2) / 3 := by
  fun_induction base64 bytes with
  | case1 => rfl
  | case2 a => simp
  | case3 a b => simp
  | case4 a b c rest ih =>
      simp only [List.length_cons, ih]
      omega

theorem length_base64_le (bytes : Bytes) : 3 * bytes.base64.length ≤ 4 * bytes.length + 4 := by
  rw [length_base64]
  omega

theorem digit_of_mem_hex {bytes : Bytes} {character : Char} (member : character ∈ bytes.hex) :
    ∃ value, value < 16 ∧ character = hexDigit value := by
  obtain ⟨byte, -, digit⟩ := List.mem_flatMap.mp member
  have bound := byte.toNat_lt
  simp only [hexPair, List.mem_cons, List.not_mem_nil, or_false] at digit
  rcases digit with high | low
  · exact ⟨_, by omega, high⟩
  · exact ⟨_, by omega, low⟩

theorem not_mem_hex {character : Char} (other : ∀ value < 16, character ≠ hexDigit value)
    (bytes : Bytes) : character ∉ bytes.hex := by
  intro member
  obtain ⟨value, small, same⟩ := digit_of_mem_hex member
  exact other value small same

/-- Reads digit pairs, whatever blanks are between them. -/
def ofSpacedHex? (text : List Char) : Option Bytes :=
  ofHex? (text.filter (· ≠ ' '))

theorem filter_hexPair (byte : UInt8) : (hexPair byte).filter (· ≠ ' ') = hexPair byte := by
  have pair : hexPair byte = hex [byte] := by simp [hex]
  rw [pair, List.filter_eq_self]
  intro digit member
  have blank : ' ' ∉ hex [byte] := not_mem_hex (by decide) _
  exact decide_eq_true fun same => blank (same ▸ member)

theorem filter_spacedHex (bytes : Bytes) : bytes.spacedHex.filter (· ≠ ' ') = bytes.hex := by
  fun_induction spacedHex bytes with
  | case1 => rfl
  | case2 byte =>
      rw [filter_hexPair]
      simp [hex]
  | case3 byte rest _ ih =>
      rw [List.filter_append, filter_hexPair, List.filter_cons_of_neg (by simp), ih]
      rfl

theorem not_mem_spacedHex {character : Char} (other : ∀ value < 16, character ≠ hexDigit value)
    (blank : character ≠ ' ') (bytes : Bytes) : character ∉ bytes.spacedHex := by
  intro member
  have kept : character ∈ bytes.spacedHex.filter (· ≠ ' ') :=
    List.mem_filter.mpr ⟨member, decide_eq_true blank⟩
  rw [filter_spacedHex] at kept
  exact not_mem_hex other bytes kept

theorem ofSpacedHex?_spacedHex (bytes : Bytes) : ofSpacedHex? bytes.spacedHex = some bytes := by
  rw [ofSpacedHex?, filter_spacedHex, ofHex?_hex]

end Bytes

end Argon2Workbench
