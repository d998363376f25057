import Argon2Workbench.Text.Rune

namespace Argon2Workbench

def defaultPassword : String := "password"

/-- The buffer that holds a password while it is used, with all that was ever in it. -/
structure PasswordBuffer where
  contents : Bytes
  /-- The contents that were replaced, the oldest first. -/
  past : List Bytes := []
deriving DecidableEq, Repr

namespace PasswordBuffer

def source (password : Option Bytes) : Bytes :=
  password.getD (Text.utf8 defaultPassword)

def fill (source : Bytes) : PasswordBuffer :=
  { contents := source }

def replace (buffer : PasswordBuffer) (bytes : Bytes) : PasswordBuffer :=
  { contents := bytes, past := buffer.past ++ [buffer.contents] }

inductive Change where
  | append (bytes : Bytes)
  | replace (bytes : Bytes)
deriving DecidableEq, Repr

def Change.apply (contents : Bytes) : Change → Bytes
  | append bytes => contents ++ bytes
  | replace bytes => bytes

end PasswordBuffer

end Argon2Workbench
