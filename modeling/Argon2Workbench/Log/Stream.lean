import Argon2Workbench.Log.Entry
import Argon2Workbench.Text.Uppercase

/-! The log stream: which records are written, in which formats, and how that is set up.

A stream begins without handlers and then writes the bare messages of warnings and
worse. Set-up for plain lines is for a stream without handlers only, set-up for JSON
lines for one without a JSON handler.
-/

namespace Argon2Workbench.Log

inductive Handler where
  | json
  | plain
deriving DecidableEq, Repr

structure Stream where
  level : Level := .warning
  handlers : List Handler := []
deriving DecidableEq, Repr

/-- A level as it is asked for: a number, or text that should name one, or something else. -/
inductive LevelSetting where
  | number (level : Level)
  | named (text : Text)
  | other (shown : Text)
deriving DecidableEq

inductive LevelError where
  | unknown (text : Text)
  | unfit (shown : Text)
deriving DecidableEq, Repr

def LevelError.message : LevelError → Text
  | unknown text => s!"Unknown level: {text.quoted}"
  | unfit shown => Text.ofString "Level not an integer or a valid string: " ++ shown

def LevelSetting.resolve : LevelSetting → Except LevelError Level
  | number level => .ok level
  | named text =>
      match Level.ofName? text with
      | some level => .ok level
      | none => .error (.unknown text)
  | other shown => .error (.unfit shown)

def basicLayout : String :=
  "%(levelname)s:%(name)s:%(message)s"

def layouts : String :=
  "\x7b'%': (<class 'logging.PercentStyle'>, '%(levelname)s:%(name)s:%(message)s'), " ++
  "'\x7b': (<class 'logging.StrFormatStyle'>, '\x7blevelname\x7d:\x7bname\x7d:\x7bmessage\x7d'), " ++
  "'$': (<class 'logging.StringTemplateStyle'>, " ++
  "'$\x7blevelname\x7d:$\x7bname\x7d:$\x7bmessage\x7d')\x7d"

/-- What the name of a level in the settings stands for, in upper or lower case. Unknown
names mean warnings, save two that name layouts. -/
def namedSetting (name : Text) : LevelSetting :=
  let name := Text.uppercase name
  if name = "BASIC_FORMAT" then .named basicLayout
  else if name = "_STYLES" then .other layouts
  else .number ((Level.ofName? name).getD .warning)

namespace Stream

def setLevel (stream : Stream) (setting : LevelSetting) : Except LevelError Stream :=
  setting.resolve.map fun level => { stream with level }

def configureJson (stream : Stream) (setting : LevelSetting) : Stream × Except LevelError Unit :=
  match stream.setLevel setting with
  | .error error => (stream, .error error)
  | .ok stream =>
      if stream.handlers.contains .json then (stream, .ok ())
      else ({ stream with handlers := stream.handlers ++ [.json] }, .ok ())

/-- The handler is in place before the level is looked at, so it stays if that fails. -/
def configurePlain (stream : Stream) (setting : LevelSetting) :
    Stream × Except LevelError Unit :=
  if stream.handlers.isEmpty then
    let opened := { stream with handlers := [.plain] }
    match opened.setLevel setting with
    | .error error => (opened, .error error)
    | .ok stream => (stream, .ok ())
  else (stream, .ok ())

def configure (stream : Stream) (levelName : Text) (jsonLines : Bool) :
    Stream × Except LevelError Unit :=
  if jsonLines then stream.configureJson (namedSetting levelName)
  else stream.configurePlain (namedSetting levelName)

/-- Whether records of a level are written at all; level zero never is. -/
def admits (stream : Stream) (level : Level) : Bool :=
  0 < level && stream.level ≤ level

/-- The line that a handler writes. It leaves out one that has a number that is too long. -/
def lineText (stamp : String) (line : Line) : Handler → Text
  | .json => match line.json stamp with
      | .ok text => Text.ofString (text ++ "\n")
      | .error _ => []
  | .plain => match line.plain with
      | .ok text => text ++ Text.ofString "\n"
      | .error _ => []

def text (stream : Stream) (level : Level) (stamp : String) (line : Line) : Text :=
  if stream.handlers.isEmpty then
    if .warning ≤ level then line.message ++ Text.ofString "\n" else []
  else stream.handlers.flatMap (lineText stamp line)

def written (stream : Stream) (stamp : String) (record : Record) : Text :=
  if stream.admits record.level then stream.text record.level stamp record.line else []

end Stream

end Argon2Workbench.Log
