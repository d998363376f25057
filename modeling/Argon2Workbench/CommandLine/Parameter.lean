import Argon2Workbench.Text.Rune

/-! The six parameters of the command line, their names, and the pairing of names with
values.

A name takes the token after it as its value whatever that looks like, so pairing comes
before any other reading.
-/

namespace Argon2Workbench.CommandLine

abbrev Token := Text

def divider : Token := Text.ofString "--"

def equalsSign : Text := Text.ofString "="

inductive Parameter where
  | variant
  | passes
  | memory
  | lanes
  | threads
  | password
deriving DecidableEq, Repr

namespace Parameter

def all : List Parameter := [variant, passes, memory, lanes, threads, password]

def short : Parameter → String
  | variant => "-y"
  | passes => "-t"
  | memory => "-m"
  | lanes => "-l"
  | threads => "-p"
  | password => "-i"

def long : Parameter → String
  | variant => "--type"
  | passes => "--tcost"
  | memory => "--mcost"
  | lanes => "--lanes"
  | threads => "--threads"
  | password => "--password"

def label : Parameter → String
  | variant => "type"
  | passes => "time cost"
  | memory => "memory cost"
  | lanes => "lanes"
  | threads => "threads"
  | password => "password"

def named (parameter : Parameter) (token : Token) : Bool :=
  token = parameter.short || token = parameter.long

def ofName? (token : Token) : Option Parameter :=
  all.find? (·.named token)

def ofShort? (token : Token) : Option Parameter :=
  all.find? fun parameter => token = parameter.short

def attach (parameter : Parameter) (value : Text) : Token :=
  Text.ofString parameter.long ++ equalsSign ++ value

theorem ofName?_short (parameter : Parameter) :
    ofName? (Text.ofString parameter.short) = some parameter := by
  cases parameter <;> rfl

theorem ofName?_long (parameter : Parameter) :
    ofName? (Text.ofString parameter.long) = some parameter := by
  cases parameter <;> rfl

end Parameter

/-- Attaches to every name the token after it. A name that nothing follows stays. -/
def paired : List Token → List Token
  | [] => []
  | [token] => [token]
  | token :: value :: rest =>
      match Parameter.ofName? token with
      | some parameter => parameter.attach value :: paired rest
      | none => token :: paired (value :: rest)

end Argon2Workbench.CommandLine
