namespace Argon2Workbench

abbrev Bytes := List UInt8

namespace Bytes

def zeros (length : Nat) : Bytes :=
  List.replicate length 0

def hexDigit (value : Nat) : Char :=
  if value < 10 then Char.ofNat (48 + value) else Char.ofNat (87 + value)

def hexValue? (digit : Char) : Option Nat :=
  let code := digit.toNat
  if 48 ≤ code && code ≤ 57 then some (code - 48)
  else if 97 ≤ code && code ≤ 102 then some (code - 87)
  else none

theorem hexValue?_hexDigit {value : Nat} (small : value < 16) :
    hexValue? (hexDigit value) = some value := by
  revert value
  decide

def hexPair (byte : UInt8) : List Char :=
  [hexDigit (byte.toNat / 16), hexDigit (byte.toNat % 16)]

def hex (bytes : Bytes) : List Char :=
  bytes.flatMap hexPair

def ofHex? : List Char → Option Bytes
  | [] => some []
  | [_] => none
  | high :: low :: rest => do
      let high ← hexValue? high
      let low ← hexValue? low
      let bytes ← ofHex? rest
      return UInt8.ofNat (16 * high + low) :: bytes

theorem ofHex?_hex (bytes : Bytes) : ofHex? (hex bytes) = some bytes := by
  induction bytes with
  | nil => rfl
  | cons byte rest ih =>
      have bound := byte.toNat_lt
      have joined : 16 * (byte.toNat / 16) + byte.toNat % 16 = byte.toNat := by omega
      have high := hexValue?_hexDigit (by omega : byte.toNat / 16 < 16)
      have low := hexValue?_hexDigit (by omega : byte.toNat % 16 < 16)
      change ofHex? (hexDigit _ :: hexDigit _ :: hex rest) = _
      simp only [ofHex?, high, low, ih, Option.bind_eq_bind, Option.bind_some, joined,
        UInt8.ofNat_toNat]
      rfl

def spacedHex : Bytes → List Char
  | [] => []
  | [byte] => hexPair byte
  | byte :: rest => hexPair byte ++ ' ' :: spacedHex rest

def symbol (value : Nat) : Char :=
  if value < 26 then Char.ofNat (65 + value)
  else if value < 52 then Char.ofNat (71 + value)
  else if value < 62 then Char.ofNat (value - 4)
  else if value = 62 then '+'
  else '/'

def symbolValue? (character : Char) : Option Nat :=
  let code := character.toNat
  if 65 ≤ code && code ≤ 90 then some (code - 65)
  else if 97 ≤ code && code ≤ 122 then some (code - 71)
  else if 48 ≤ code && code ≤ 57 then some (code + 4)
  else if code = 43 then some 62
  else if code = 47 then some 63
  else none

theorem symbolValue?_symbol {value : Nat} (small : value < 64) :
    symbolValue? (symbol value) = some value := by
  revert value
  decide

def base64 : Bytes → List Char
  | [] => []
  | [a] => [symbol (a.toNat / 4), symbol (a.toNat % 4 * 16)]
  | [a, b] =>
      [symbol (a.toNat / 4), symbol (a.toNat % 4 * 16 + b.toNat / 16), symbol (b.toNat % 16 * 4)]
  | a :: b :: c :: rest =>
      symbol (a.toNat / 4) :: symbol (a.toNat % 4 * 16 + b.toNat / 16) ::
      symbol (b.toNat % 16 * 4 + c.toNat / 64) :: symbol (c.toNat % 64) :: base64 rest

/-- Reads unpadded base 64. Bits left over in the last symbol have to be zero. -/
def ofBase64? : List Char → Option Bytes
  | [] => some []
  | [_] => none
  | [p, q] => do
      let p ← symbolValue? p
      let q ← symbolValue? q
      if q % 16 = 0 then return [UInt8.ofNat (p * 4 + q / 16)] else none
  | [p, q, r] => do
      let p ← symbolValue? p
      let q ← symbolValue? q
      let r ← symbolValue? r
      if r % 4 = 0 then
        return [UInt8.ofNat (p * 4 + q / 16), UInt8.ofNat (q % 16 * 16 + r / 4)]
      else none
  | p :: q :: r :: s :: rest => do
      let p ← symbolValue? p
      let q ← symbolValue? q
      let r ← symbolValue? r
      let s ← symbolValue? s
      let bytes ← ofBase64? rest
      return UInt8.ofNat (p * 4 + q / 16) :: UInt8.ofNat (q % 16 * 16 + r / 4) ::
        UInt8.ofNat (r % 4 * 64 + s) :: bytes

end Bytes

end Argon2Workbench
