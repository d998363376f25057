import Argon2Workbench.Text.Encodable
import Argon2Workbench.Text.Quoted

/-! A tree of files below one working directory, and the paths that name its entries.

Of the directories above the working directory nothing is known but that they are there;
what is written into them is found again, and is not among the contents of the tree. Of an
absolute path nothing is known at all.
-/

namespace Argon2Workbench

/-- Names from the working directory down. -/
abbrev Location := List Text

structure Files where
  directories : List Location := []
  contents : List (Location × Bytes) := []
deriving DecidableEq, Repr

namespace Files

inductive Refusal where
  | noEntry
  | isDirectory
  | notDirectory
  | nameTooLong
deriving DecidableEq, Repr

namespace Refusal

def code : Refusal → Nat
  | noEntry => 2
  | isDirectory => 21
  | notDirectory => 20
  | nameTooLong => 36

def text : Refusal → String
  | noEntry => "No such file or directory"
  | isDirectory => "Is a directory"
  | notDirectory => "Not a directory"
  | nameTooLong => "File name too long"

end Refusal

inductive Error where
  | refused (reason : Refusal) (path : Text)
  | embeddedNull
  | unencodable (error : Text.Unencodable)
deriving DecidableEq, Repr

def Error.message : Error → String
  | refused reason path => s!"[Errno {reason.code}] {reason.text}: {path.quoted}"
  | embeddedNull => "embedded null byte"
  | unencodable error => error.message

def separator : Text.Rune := .scalar '/'

def nameLimit : Nat := 255
def pathLimit : Nat := 4096

structure Path where
  absolute : Bool
  names : List Text
  /-- Whether a separator ends the path, which only a directory's may have. -/
  open_ : Bool

def components (text : Text) : List Text :=
  (text.reread.splitOnP (· = separator)).filter (!·.isEmpty)

def Path.ofText (text : Text) : Path :=
  { absolute := text.head? = some separator
    names := components text
    open_ := text.getLast? = some separator }

inductive Entry where
  | directory
  | file (location : Location) (bytes : Bytes)
  /-- Nothing, in a directory that exists. -/
  | vacant (location : Location)

def upward : Text := ".."

/-- The directory above a location. Above the working directory names only add up. -/
def above (here : Location) : Location :=
  if here.getLastD upward = upward then here ++ [upward] else here.dropLast

def walk (files : Files) (here : Location) : List Text → Except Refusal Entry
  | [] => .ok .directory
  | name :: rest =>
      if name = "." then files.walk here rest
      else if name = upward then files.walk (above here) rest
      else if nameLimit < name.bytes.length then .error .nameTooLong
      else
        let location := here ++ [name]
        if files.directories.contains location then files.walk location rest
        else match files.contents.lookup location with
          | some bytes => if rest.isEmpty then .ok (.file location bytes) else .error .notDirectory
          | none => if rest.isEmpty then .ok (.vacant location) else .error .noEntry

/-- What the first names of a path lead to, as many as `taken` leaves. -/
def resolve (files : Files) (path : Text) (taken : List Text → List Text) :
    Except Error Entry :=
  match path.encoded with
  | .error error => .error (.unencodable error)
  | .ok bytes =>
      if path.contains (.scalar '\x00') then .error .embeddedNull
      else if path.isEmpty then .error (.refused .noEntry path)
      else if pathLimit ≤ bytes.length then .error (.refused .nameTooLong path)
      else
        let parsed := Path.ofText path
        if parsed.absolute && !parsed.names.isEmpty then .error (.refused .noEntry path)
        else (files.walk [] (taken parsed.names)).mapError (.refused · path)

def find (files : Files) (path : Text) : Except Error Entry :=
  files.resolve path id

def endsOpen (path : Text) : Bool :=
  (Path.ofText path).open_

def put (files : Files) (location : Location) (bytes : Bytes) : Files :=
  { files with contents := files.contents.filter (·.1 != location) ++ [(location, bytes)] }

def erase (files : Files) (location : Location) : Files :=
  { files with contents := files.contents.filter (·.1 != location) }

def remove (files : Files) (path : Text) : Except Error Files := do
  match ← files.find path with
  | .directory => throw (.refused .isDirectory path)
  | .vacant _ => throw (.refused .noEntry path)
  | .file location _ =>
      if endsOpen path then throw (.refused .notDirectory path)
      else return files.erase location

def discard (files : Files) (path : Text) : Except Error (Files × Bool) :=
  match files.remove path with
  | .ok files => .ok (files, true)
  | .error (.refused .noEntry _) => .ok (files, false)
  | .error error => .error error

/-- Why nothing can be written at a path that a separator ends: it would be a directory,
if what stands above it is one. -/
def openRefusal (files : Files) (path : Text) : Error :=
  match files.resolve path List.dropLast with
  | .error error => error
  | .ok .directory => .refused .isDirectory path
  | .ok (.file ..) => .refused .notDirectory path
  | .ok (.vacant _) => .refused .noEntry path

/-- Writes at the end of a file, which is created where there is none. -/
def append (files : Files) (path : Text) (bytes : Bytes) : Except Error Files :=
  if endsOpen path then .error (files.openRefusal path)
  else do
    match ← files.find path with
    | .directory => throw (.refused .isDirectory path)
    | .vacant location => return files.put location bytes
    | .file location old => return files.put location (old ++ bytes)

def read (files : Files) (path : Text) : Except Error Bytes := do
  match ← files.find path with
  | .directory => throw (.refused .isDirectory path)
  | .vacant _ => throw (.refused .noEntry path)
  | .file _ bytes =>
      if endsOpen path then throw (.refused .notDirectory path) else return bytes

def present (files : Files) (path : Text) : Bool :=
  match files.find path with
  | .ok .directory => true
  | .ok (.file ..) => !endsOpen path
  | _ => false

end Files

end Argon2Workbench
