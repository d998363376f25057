import Argon2Workbench.Text.Rune
import Argon2Workbench.Text.Printable

namespace Argon2Workbench.Text

/-- A rune between quotes. Characters of the class `shown` stand for themselves unless they
have an escape of their own. -/
def escapeOf (shown : Char → Bool) (quote : Char) : Rune → List Char
  | .scalar character =>
      if character = '\\' || character = quote then ['\\', character]
      else if character = '\n' then ['\\', 'n']
      else if character = '\r' then ['\\', 'r']
      else if character = '\t' then ['\\', 't']
      else if shown character then [character]
      else (Rune.scalar character).numbered
  | rune => rune.numbered

def quotedCharacters (shown : Char → Bool) (text : Text) : List Char :=
  let single := text.contains (.scalar '\'')
  let double := text.contains (.scalar '"')
  let quote := if single && !double then '"' else '\''
  quote :: text.flatMap (escapeOf shown quote) ++ [quote]

def quoted (text : Text) : String :=
  String.ofList (text.quotedCharacters isPrintable)

def quotedAscii (text : Text) : String :=
  String.ofList (text.quotedCharacters fun character =>
    isPrintable character && character.toNat < 0x80)

end Argon2Workbench.Text
