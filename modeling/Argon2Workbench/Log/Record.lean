import Argon2Workbench.Json.Display
import Argon2Workbench.Json.Writer

namespace Argon2Workbench.Log

abbrev Level := Int

namespace Level

def debug : Level := 10
def info : Level := 20
def warning : Level := 30
def error : Level := 40
def critical : Level := 50

/-- The numbers of the level names. Two names are spellings of another's level. -/
def numbers : List (String × Level) :=
  [("CRITICAL", critical), ("FATAL", critical), ("ERROR", error), ("WARN", warning),
   ("WARNING", warning), ("INFO", info), ("DEBUG", debug), ("NOTSET", 0)]

def name (level : Level) : String :=
  if level = critical then "CRITICAL"
  else if level = error then "ERROR"
  else if level = warning then "WARNING"
  else if level = info then "INFO"
  else if level = debug then "DEBUG"
  else if level = 0 then "NOTSET"
  else s!"Level {level}"

end Level

structure Fields where
  status : Option Json := none
  variant : Option Json := none
  memory : Option Json := none
  threads : Option Json := none

namespace Fields

def members (fields : Fields) : List (Text × Json) :=
  let member := fun (name : Text) (value : Option Json) => (value.map (name, ·)).toList
  member "status" fields.status ++ member "argon2_type" fields.variant ++
    member "m_cost" fields.memory ++ member "threads" fields.threads

end Fields

structure Record where
  level : Level
  logger : String
  message : Text
  fields : Fields := {}
  exception : Option Text := none

/-- What a line shows, the time apart. -/
structure Line where
  level : Json
  logger : Json
  message : Text
  fields : Fields := {}
  exception : Option Text := none

namespace Line

def head (line : Line) (stamp : String) : List (Text × Json) :=
  [("timestamp", .string stamp), ("level", line.level), ("logger", line.logger),
   ("message", .string line.message)]

def tail (line : Line) : List (Text × Json) :=
  (line.exception.map fun text => (Text.ofString "exc_info", Json.string text)).toList

def payload (line : Line) (stamp : String) : Json :=
  .object (line.head stamp ++ line.fields.members ++ line.tail)

def json (line : Line) (stamp : String) : Except Numeral.DigitsError String :=
  (line.payload stamp).rendered

def plain (line : Line) : Except Numeral.DigitsError Text := do
  return (← line.level.displayed) ++ Text.ofString " " ++ (← line.logger.displayed) ++
    Text.ofString ": " ++ line.message

end Line

def Record.line (record : Record) : Line :=
  { level := record.level.name, logger := record.logger, message := record.message
    fields := record.fields, exception := record.exception }

def noExceptionText : Text :=
  "NoneType: None"

end Argon2Workbench.Log
