import Argon2Workbench.Number.Numeral
import Argon2Workbench.Text.Quoted
import Argon2Workbench.Text.Uppercase

namespace Argon2Workbench

structure Settings where
  recordPath : Text := "kat-argon2.log"
  capacity : Int := 300
  gigahertz : Binary64 := .one
  logLevel : Text := "WARNING"
  jsonLog : Bool := false
deriving DecidableEq

namespace Settings

inductive Error where
  | capacity (text : Text) (reason : Numeral.IntegerError)
  | gigahertz (text : Text)
deriving DecidableEq, Repr

/-- As much of a quoted text as the message about a bad integer shows. -/
def shownLength : Nat := 200

def Error.message : Error → String
  | capacity text .malformed =>
      "invalid literal for int() with base 10: " ++
        String.ofList (text.quoted.toList.take shownLength)
  | capacity _ (.tooManyDigits count) =>
      s!"Exceeds the limit ({Numeral.digitLimit} digits) for integer string conversion: " ++
        s!"value has {count} digits; use sys.set_int_max_str_digits() to increase the limit"
  | gigahertz text => s!"could not convert string to float: {text.quoted}"

def foreign : Char := '?'

def readCapacity (text : Text) : Except Error Int :=
  (Numeral.integer (text.charactersOr foreign)).mapError (.capacity text)

def readGigahertz (text : Text) : Except Error Binary64 :=
  match Numeral.real (text.charactersOr foreign) with
  | none => .error (.gigahertz text)
  | some value => .ok value

def affirmative : List Text := ["1", "true", "yes"]

def variableNames : List String :=
  ["ARGON2_KAT_FILENAME", "ARGON2_ENCODED_CAPACITY", "ARGON2_CPU_GHZ", "ARGON2_LOG_LEVEL",
   "ARGON2_LOG_JSON"]

/-- The settings that an environment makes. A variable that is not set leaves a default. -/
def ofEnvironment (lookup : String → Option Text) : Except Error Settings := do
  let defaults : Settings := {}
  let capacity ← match lookup "ARGON2_ENCODED_CAPACITY" with
    | none => pure defaults.capacity
    | some text => readCapacity text
  let gigahertz ← match lookup "ARGON2_CPU_GHZ" with
    | none => pure defaults.gigahertz
    | some text => readGigahertz text
  return {
    recordPath := (lookup "ARGON2_KAT_FILENAME").getD defaults.recordPath
    capacity, gigahertz
    logLevel := ((lookup "ARGON2_LOG_LEVEL").map Text.uppercase).getD defaults.logLevel
    jsonLog := (lookup "ARGON2_LOG_JSON").any affirmative.contains }

end Settings

end Argon2Workbench
