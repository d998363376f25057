import Argon2Workbench.CommandLine.Word
import Argon2Workbench.Log.Record

/-! The two passes over the tokens of a command line.

The first takes the options in front of the divider and leaves everything else. The
second reads what is left: its first unbroken row of operands are the modes, and what
comes after that is out of place.
-/

namespace Argon2Workbench.CommandLine

inductive UsageError where
  | missing (parameter : Parameter)
  | unrecognized (tokens : List Token)
  | unexpected (token : Token)
  | notANumber (label text : Text)
deriving DecidableEq, Repr

namespace UsageError

def message : UsageError → Text
  | missing parameter => s!"missing {parameter.label} argument"
  | unrecognized _ => "unknown argument"
  | unexpected _ => "unknown argument"
  | notANumber label text =>
      Text.ofString "invalid " ++ label ++ Text.ofString " value '" ++ text ++ Text.ofString "'"

def logger : String := "argon2_harness.params.invocation"

/-- What is logged beside the message, which does not show the tokens. -/
def log : UsageError → List Log.Record
  | unrecognized tokens =>
      [{ level := .debug, logger
         message := Text.ofString "argparse rejected input: unrecognized arguments: " ++
           (Text.ofString " ").intercalate tokens }]
  | unexpected token =>
      [{ level := .debug, logger
         message := s!"unexpected positional argument: {token.quoted}" }]
  | _ => []

end UsageError

abbrev Given := List (Parameter × Text)

structure Draft where
  given : Given := []
  left : List Token := []
deriving DecidableEq, Repr

namespace Draft

def give (draft : Draft) (parameter : Parameter) (value : Text) : Draft :=
  { draft with given := (parameter, value) :: draft.given }

def leave (draft : Draft) (token : Token) : Draft :=
  { draft with left := token :: draft.left }

/-- The first pass. A divider that no operand precedes is taken away; a later one is left
for the second pass. -/
def ofTokens (operandSeen : Bool) : List Token → Except UsageError Draft
  | [] => .ok {}
  | token :: rest =>
      if token = divider then .ok { left := if operandSeen then token :: rest else rest }
      else match Word.ofToken token with
        | .operand token => return (← ofTokens true rest).leave token
        | .unknown token => return (← ofTokens operandSeen rest).leave token
        | .given parameter value => return (← ofTokens operandSeen rest).give parameter value
        | .bare parameter => .error (.missing parameter)

end Draft

/-- The words that the second pass reads. Behind a divider everything is an operand. -/
def words (tokens : List Token) : List Word :=
  let behind := tokens.dropWhile (· ≠ divider)
  (tokens.takeWhile (· ≠ divider)).map .ofToken ++ behind.map .operand

namespace Word

def isOperand : Word → Bool
  | operand _ => true
  | _ => false

def bare? : Word → Option Parameter
  | bare parameter => some parameter
  | _ => none

def given? : Word → Option (Parameter × Text)
  | given parameter value => some (parameter, value)
  | _ => none

def token? : Word → Option Token
  | operand token => some token
  | unknown token => some token
  | _ => none

end Word

structure Reading where
  /-- Later entries override earlier ones. -/
  given : Given
  modes : List Token
deriving DecidableEq, Repr

namespace Reading

def ofWords (given : Given) (words : List Word) : Except UsageError Reading :=
  match words.findSome? Word.bare? with
  | some parameter => .error (.missing parameter)
  | none =>
      let fromOperands := words.dropWhile (!·.isOperand)
      let modes := (fromOperands.takeWhile Word.isOperand).filterMap Word.token?
      let extras := (words.takeWhile (!·.isOperand)).filterMap Word.token? ++
        (fromOperands.dropWhile Word.isOperand).filterMap Word.token?
      if extras.isEmpty then
        .ok { given := given ++ words.filterMap Word.given?, modes := modes.erase divider }
      else .error (.unrecognized extras)

def ofTokens (tokens : List Token) : Except UsageError Reading := do
  let draft ← Draft.ofTokens false (paired tokens)
  ofWords draft.given (words draft.left)

def value? (reading : Reading) (parameter : Parameter) : Option Text :=
  reading.given.reverse.lookup parameter

end Reading

end Argon2Workbench.CommandLine
