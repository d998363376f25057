import Argon2Workbench.Number.Decimal
import Argon2Workbench.Number.Numeral
import Argon2Workbench.Text.Rune

namespace Argon2Workbench

inductive Json where
  | null
  | boolean (value : Bool)
  | integer (value : Int)
  | real (value : Binary64)
  | string (text : Text)
  | array (elements : List Json)
  | object (members : List (Text × Json))

namespace Json

instance : Inhabited Json := ⟨null⟩

instance : Coe String Json := ⟨fun text => string text⟩

def ofNat (value : Nat) : Json :=
  integer value

mutual

/-- Whether no integer in a value is too long to be written. -/
def isWritable : Json → Bool
  | integer value => Numeral.isWritable value
  | array elements => areWritable elements
  | object members => membersWritable members
  | _ => true

def areWritable : List Json → Bool
  | [] => true
  | first :: rest => isWritable first && areWritable rest

def membersWritable : List (Text × Json) → Bool
  | [] => true
  | (_, value) :: rest => isWritable value && membersWritable rest

end

end Json

namespace Text

abbrev CodeUnit := Nat

/-- The units of a number: two beyond the first plane. -/
def unitsOf (code : Nat) : List CodeUnit :=
  if code < 0x10000 then [code]
  else [0xd800 + (code - 0x10000) / 0x400, 0xdc00 + (code - 0x10000) % 0x400]

def Rune.units (rune : Rune) : List CodeUnit :=
  unitsOf rune.code

def units (text : Text) : List CodeUnit :=
  text.flatMap Rune.units

def isHigh (unit : CodeUnit) : Bool :=
  0xd800 ≤ unit && unit < 0xdc00

def isLow (unit : CodeUnit) : Bool :=
  0xdc00 ≤ unit && unit < 0xe000

/-- What a unit outside of a pair is. A surrogate is a stray byte if it numbers one. -/
def Rune.ofUnit (unit : CodeUnit) : Rune :=
  if 0xdc80 ≤ unit && unit < 0xdd00 then .stray (UInt8.ofNat (unit - 0xdc00))
  else if isHigh unit || isLow unit then .half (UInt16.ofNat unit)
  else .scalar (Char.ofNat unit)

def ofUnits : List CodeUnit → Text
  | [] => []
  | [unit] => [.ofUnit unit]
  | first :: second :: rest =>
      if isHigh first && isLow second then
        let code := 0x10000 + (first - 0xd800) * 0x400 + (second - 0xdc00)
        .scalar (Char.ofNat code) :: ofUnits rest
      else .ofUnit first :: ofUnits (second :: rest)

end Text

end Argon2Workbench
