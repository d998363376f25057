import Argon2Workbench.Text.Rune

namespace Argon2Workbench.Text

/-- Runes in a row, none of them a character, from a place in a text. -/
structure Unencodable where
  position : Nat
  runes : Text
deriving DecidableEq, Repr

def Unencodable.place (error : Unencodable) : String :=
  match error.runes with
  | [rune] => s!"character '{String.ofList rune.numbered}' in position {error.position}"
  | runes => s!"characters in position {error.position}-{error.position + runes.length - 1}"

def Unencodable.message (error : Unencodable) : String :=
  s!"'utf-8' codec can't encode {error.place}: surrogates not allowed"

def Rune.isScalar : Rune → Bool
  | scalar _ => true
  | _ => false

def Rune.isHalf : Rune → Bool
  | half _ => true
  | _ => false

/-- The first rune of a class that has no bytes, with the row that it begins. -/
def unencodable? (refused : Rune → Bool) (text : Text) : Option Unencodable :=
  match text.findIdx? refused with
  | none => none
  | some position => some ⟨position, (text.drop position).takeWhile fun rune => !rune.isScalar⟩

/-- The bytes of a text without half units. Stray bytes stand for themselves. -/
def encoded (text : Text) : Except Unencodable Bytes :=
  match text.unencodable? Rune.isHalf with
  | some error => .error error
  | none => .ok text.bytes

def strictBytes (text : Text) : Except Unencodable Bytes :=
  match text.unencodable? fun rune => !rune.isScalar with
  | some error => .error error
  | none => .ok text.bytes

end Argon2Workbench.Text
