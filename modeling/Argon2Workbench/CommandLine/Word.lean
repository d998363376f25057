import Argon2Workbench.CommandLine.Parameter
import Argon2Workbench.Text.DecimalDigit

namespace Argon2Workbench.CommandLine

open Text (digitValue?)

inductive Word where
  | operand (token : Token)
  | bare (parameter : Parameter)
  | given (parameter : Parameter) (value : Text)
  | unknown (token : Token)
deriving DecidableEq, Repr

/-- The digits before and after a point, where either all are before it or some after. -/
def isUnsignedDecimal (characters : List Char) : Bool :=
  let isDigit := fun character => (digitValue? character).isSome
  match characters.dropWhile isDigit with
  | [] => !characters.isEmpty
  | '.' :: fraction => !fraction.isEmpty && fraction.all isDigit
  | _ => false

/-- Whether the token is a negative number. A line feed at its end is not looked at. -/
def isNegativeNumber (token : Token) : Bool :=
  match token.characters? with
  | some ('-' :: rest) =>
      isUnsignedDecimal (if rest.getLast? = some '\n' then rest.dropLast else rest)
  | _ => false

def splitValue? (token : Token) : Option (Token × Text) :=
  match token.dropWhile (· ≠ .scalar '=') with
  | [] => none
  | _ :: value => some (token.takeWhile (· ≠ .scalar '='), value)

/-- A parameter whose value is in the same token: behind an equals sign, or directly
behind a short name. -/
def attached? (token : Token) : Option (Parameter × Text) :=
  let byName := do
    let (name, value) ← splitValue? token
    return (← Parameter.ofName? name, value)
  byName.or ((Parameter.ofShort? (token.take 2)).map (·, token.drop 2))

def Word.ofToken (token : Token) : Word :=
  if token.head? ≠ some (.scalar '-') || token.length = 1 then .operand token
  else match Parameter.ofName? token with
    | some parameter => .bare parameter
    | none => match attached? token with
      | some (parameter, value) => .given parameter value
      | none =>
          if isNegativeNumber token || token.contains (.scalar ' ') then .operand token
          else .unknown token

end Argon2Workbench.CommandLine
