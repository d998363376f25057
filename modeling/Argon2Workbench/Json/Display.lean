import Argon2Workbench.Json.Value
import Argon2Workbench.Text.Quoted

namespace Argon2Workbench.Json

mutual

/-- The text of a value in which strings are written as `quote` has them. -/
def shown (quote : Text → String) : Json → Text
  | null => "None"
  | boolean true => "True"
  | boolean false => "False"
  | integer value => toString value
  | real value => Decimal.shortText value
  | string text => quote text
  | array elements => ("[" : Text) ++ shownElements quote elements ++ ("]" : Text)
  | object members => ("\x7b" : Text) ++ shownMembers quote members ++ ("\x7d" : Text)

def shownElements (quote : Text → String) : List Json → Text
  | [] => []
  | [last] => shown quote last
  | first :: rest => shown quote first ++ (", " : Text) ++ shownElements quote rest

def shownMembers (quote : Text → String) : List (Text × Json) → Text
  | [] => []
  | [(name, value)] => quote name ++ (": " : Text) ++ shown quote value
  | (name, value) :: rest =>
      quote name ++ (": " : Text) ++ shown quote value ++ (", " : Text) ++
        shownMembers quote rest

end

def quotedDisplay (value : Json) : Text :=
  value.shown Text.quoted

/-- The same in ASCII. -/
def asciiDisplay (value : Json) : Text :=
  value.shown Text.quotedAscii

def display : Json → Text
  | string text => text
  | value => quotedDisplay value

def displayed (value : Json) : Except Numeral.DigitsError Text :=
  if value.isWritable then .ok value.display else .error {}

/-- Whether a value counts as there: zero and what is empty do not. -/
def isPresent : Json → Bool
  | null => false
  | boolean value => value
  | integer value => value != 0
  | real value => !value.isZero
  | string text => !text.isEmpty
  | array elements => !elements.isEmpty
  | object members => !members.isEmpty

def kindName : Json → String
  | null => "NoneType"
  | boolean _ => "bool"
  | integer _ => "int"
  | real _ => "float"
  | string _ => "str"
  | array _ => "list"
  | object _ => "dict"

end Argon2Workbench.Json
