import Argon2Workbench.Log.Moment
import Argon2Workbench.Log.Record
import Argon2Workbench.Template

namespace Argon2Workbench.Log

/-- Why a value does not stand for an exception. What does is a row that has the exception
in its second place and the trace to where it was raised in its third. -/
inductive ExceptionError where
  | notARow (kind : String)
  | shortList
  | shortText
  /-- The places of an object are its keys, and no key is a number. -/
  | noPlace
  | notATrace (kind : String)
  | notAnException (kind : String)
deriving DecidableEq, Repr

def ExceptionError.message : ExceptionError → String
  | notARow kind => s!"'{kind}' object is not subscriptable"
  | shortList => "list index out of range"
  | shortText => "string index out of range"
  | noPlace => "2"
  | notATrace kind => s!"'{kind}' object has no attribute 'tb_frame'"
  | notAnException kind => s!"'{kind}' object has no attribute '__suppress_context__'"

inductive EntryError where
  /-- A level of a kind that is never a name. -/
  | level (kind : String)
  | moment (error : Moment.Error)
  | template (error : Template.Error)
  | exception (error : ExceptionError)
  /-- Something of a kind that makes no message stands where the message is made. -/
  | silenced (kind : String)
  | digits (error : Numeral.DigitsError)
deriving DecidableEq, Repr

def EntryError.message : EntryError → Text
  | level kind => s!"unhashable type: '{kind}'"
  | moment error => error.message
  | template error => error.message
  | exception error => error.message
  | silenced kind => s!"'{kind}' object is not callable"
  | digits error => error.message

namespace Level

def ofName? (name : Text) : Option Level :=
  (numbers.find? fun (known, _) => Text.ofString known = name).map (·.2)

/-- What a level is shown as. The name of a level is shown as its number. -/
def shown (level : Json) : Except EntryError Json :=
  let unnamed : Json := .string (Text.ofString "Level " ++ level.display)
  match level with
  | .integer number =>
      if Numeral.isWritable number then .ok (name number) else .error (.digits {})
  | .real value =>
      let whole := (value.truncate.toOption.filter fun number =>
        (Binary64.ofInt number).toOption = some value && name number ≠ s!"Level {number}")
      .ok ((whole.map fun number => Json.string (name number)).getD unnamed)
  | .boolean false => .ok (name 0)
  | .string text => .ok (((ofName? text).map Json.integer).getD unnamed)
  | .array _ | .object _ => .error (.level level.kindName)
  | _ => .ok unnamed

end Level

structure Call where
  logger : Json
  level : Json
  template : Json
  arguments : List Json := []
  attributes : List (Text × Json) := []

structure Entry where
  logger : Json
  level : Json
  template : Json
  arguments : Template.Arguments
  created : Json := .integer 0
  milliseconds : Json := .integer 0
  fields : Fields := {}
  exception : Except ExceptionError (Option Text) := .ok none
  /-- The kind of the value that stands where the message is made. -/
  silencedBy : Option String := none

namespace Entry

/-- A lone argument with members may be asked for them by their keys. -/
def argumentsOf : List Json → Template.Arguments
  | [.object (first :: rest)] => .single (.object (first :: rest))
  | arguments => .row arguments

/-- An argument that does not count as there leaves the template as it is. -/
def argumentsFrom (value : Json) : Template.Arguments :=
  if value.isPresent then .single value else .row []

def fieldOf : Json → Option Json
  | .null => none
  | value => some value

/-- The exception that a value stands for. The trace is looked at before the exception, and
neither is ever there: a row without the two says that there is no exception. -/
def exceptionFrom (value : Json) : Except ExceptionError (Option Text) :=
  if !value.isPresent then .ok none
  else match value with
    | .array (_ :: .null :: .null :: _) => .ok (some noExceptionText)
    | .array (_ :: exception :: .null :: _) => .error (.notAnException exception.kindName)
    | .array (_ :: _ :: trace :: _) => .error (.notATrace trace.kindName)
    | .array _ => .error .shortList
    | .string (_ :: _ :: _ :: _) => .error (.notATrace value.kindName)
    | .string _ => .error .shortText
    | .object _ => .error .noPlace
    | _ => .error (.notARow value.kindName)

/-- Puts an attribute in the place of the part that has its name. -/
def set (entry : Entry) (name : Text) (value : Json) : Entry :=
  if name = "name" then { entry with logger := value }
  else if name = "levelname" then { entry with level := value }
  else if name = "msg" then { entry with template := value }
  else if name = "args" then { entry with arguments := argumentsFrom value }
  else if name = "created" then { entry with created := value }
  else if name = "msecs" then { entry with milliseconds := value }
  else if name = "status" then { entry with fields.status := fieldOf value }
  else if name = "argon2_type" then { entry with fields.variant := fieldOf value }
  else if name = "m_cost" then { entry with fields.memory := fieldOf value }
  else if name = "threads" then { entry with fields.threads := fieldOf value }
  else if name = "getMessage" then { entry with silencedBy := some value.kindName }
  else if name = "exc_info" then { entry with exception := exceptionFrom value }
  else entry

def setAll (entry : Entry) (attributes : List (Text × Json)) : Entry :=
  attributes.foldl (fun entry (name, value) => entry.set name value) entry

def ofCall (call : Call) : Except EntryError Entry := do
  return {
    logger := call.logger, level := ← Level.shown call.level, template := call.template
    arguments := argumentsOf call.arguments }

/-- Without arguments the template is the message. -/
def message [Machine] (entry : Entry) : Except EntryError Text := do
  if let some kind := entry.silencedBy then throw (.silenced kind)
  let template ← entry.template.displayed.mapError .digits
  match entry.arguments with
  | .row [] => return template
  | arguments => (Template.fill template arguments).mapError .template

def line [Machine] (entry : Entry) : Except EntryError Line := do
  return {
    level := entry.level, logger := entry.logger, message := ← entry.message
    fields := entry.fields, exception := ← entry.exception.mapError .exception }

def stamp (entry : Entry) : Except EntryError String := do
  let moment ← (Moment.ofSeconds entry.created).mapError .moment
  let milliseconds ← (Template.integerOf 'd' 10 entry.milliseconds).mapError .template
  if !Numeral.isWritable milliseconds then throw (.digits {})
  return { moment with milliseconds }.stamp

/-- The JSON line of an entry. The time is looked at before the message is, and the numbers
at the very end. -/
def jsonLine [Machine] (entry : Entry) : Except EntryError String := do
  let stamp ← entry.stamp
  let line ← entry.line
  (line.json stamp).mapError .digits

end Entry

end Argon2Workbench.Log
