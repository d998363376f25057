import Argon2Workbench.Text.Utf8

/-! Text that may have come from bytes which are not UTF-8, or from code units which are
not UTF-16.

Such text keeps every byte and every unit that belongs to no character, so nothing is
lost between a command line and the messages that quote it.
-/

namespace Argon2Workbench.Text

/-- A unit of text: a character, or a byte that is part of none, or one half of a surrogate
pair without the other. -/
inductive Rune where
  | scalar (character : Char)
  | stray (byte : UInt8)
  | half (unit : UInt16)
deriving DecidableEq, Repr

/-- The number of a rune. A stray byte is numbered as the low surrogate with the same last
byte. -/
def Rune.code : Rune → Nat
  | scalar character => character.toNat
  | stray byte => 0xdc00 + byte.toNat
  | half unit => unit.toNat

end Argon2Workbench.Text

namespace Argon2Workbench

open Text in
abbrev Text := List Rune

namespace Text

def ofString (text : String) : Text :=
  text.toList.map .scalar

instance : Coe String Text := ⟨ofString⟩

def ofBytes (bytes : Bytes) : Text :=
  (Utf8.pieces bytes).flatMap fun
    | .char character => [.scalar character]
    | .malformed _ bytes => bytes.map .stray

/-- The three bytes that would stand for a code unit if it were a character. -/
def halfBytes (unit : UInt16) : Bytes :=
  let code := unit.toNat
  [0xe0 + UInt8.ofNat (code / 4096), 0x80 + UInt8.ofNat (code / 64 % 64),
   0x80 + UInt8.ofNat (code % 64)]

def bytes (text : Text) : Bytes :=
  text.flatMap fun
    | .scalar character => String.utf8EncodeChar character
    | .stray byte => [byte]
    | .half unit => halfBytes unit

theorem bytes_ofString (text : String) : (ofString text).bytes = utf8 text := by
  simp [bytes, ofString, utf8, List.flatMap_map]

/-- The text that the bytes of a text are read as. Stray bytes that make up a character
become that character. -/
def reread (text : Text) : Text :=
  ofBytes text.bytes

def characters? (text : Text) : Option (List Char) :=
  text.mapM fun
    | .scalar character => some character
    | _ => none

def charactersOr (mark : Char) (text : Text) : List Char :=
  text.map fun
    | .scalar character => character
    | _ => mark

def hexDigits : (width : Nat) → Nat → List Char
  | 0, _ => []
  | width + 1, value => hexDigits width (value / 16) ++ [Bytes.hexDigit (value % 16)]

/-- A rune by its number, after a mark and in as many digits as that goes with. -/
def Rune.numbered (rune : Rune) : List Char :=
  if rune.code < 0x100 then '\\' :: 'x' :: hexDigits 2 rune.code
  else if rune.code < 0x10000 then '\\' :: 'u' :: hexDigits 4 rune.code
  else '\\' :: 'U' :: hexDigits 8 rune.code

/-- Text for a stream that takes characters only: all else is written by its number. -/
def printed (text : Text) : String :=
  String.ofList <| text.flatMap fun
    | .scalar character => [character]
    | rune => rune.numbered

end Text

end Argon2Workbench
