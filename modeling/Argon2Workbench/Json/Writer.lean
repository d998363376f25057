import Argon2Workbench.Json.Value

namespace Argon2Workbench.Json

def escapedUnit (unit : Text.CodeUnit) : List Char :=
  if unit = 0x22 then ['\\', '"']
  else if unit = 0x5c then ['\\', '\\']
  else if 0x20 ≤ unit && unit ≤ 0x7e then [Char.ofNat unit]
  else if unit = 0x0a then ['\\', 'n']
  else if unit = 0x0d then ['\\', 'r']
  else if unit = 0x09 then ['\\', 't']
  else if unit = 0x08 then ['\\', 'b']
  else if unit = 0x0c then ['\\', 'f']
  else '\\' :: 'u' :: Text.hexDigits 4 unit

def quotedText (text : Text) : List Char :=
  '"' :: text.units.flatMap escapedUnit ++ ['"']

def integerText (value : Int) : List Char :=
  (toString value).toList

/-- Numbers without a value have names of their own. -/
def realText : Binary64 → List Char
  | .infinite negative => Decimal.signed negative "Infinity".toList
  | .nan => "NaN".toList
  | finite => (Decimal.shortText finite).toList

mutual

def write : Json → List Char
  | null => "null".toList
  | boolean true => "true".toList
  | boolean false => "false".toList
  | integer value => integerText value
  | real value => realText value
  | string text => quotedText text
  | array elements => '[' :: writeElements elements ++ [']']
  | object members => '{' :: writeMembers members ++ ['}']

def writeElements : List Json → List Char
  | [] => []
  | [last] => write last
  | first :: rest => write first ++ ',' :: ' ' :: writeElements rest

def writeMembers : List (Text × Json) → List Char
  | [] => []
  | [(name, value)] => quotedText name ++ ':' :: ' ' :: write value
  | (name, value) :: rest =>
      quotedText name ++ ':' :: ' ' :: write value ++ ',' :: ' ' :: writeMembers rest

end

def render (value : Json) : String :=
  String.ofList value.write

def rendered (value : Json) : Except Numeral.DigitsError String :=
  if value.isWritable then .ok value.render else .error {}

end Argon2Workbench.Json
