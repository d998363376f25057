import Argon2Workbench.Context.Basic

namespace Argon2Workbench

open Hash.Argon2 (Variant)

structure Phc where
  variant : Variant
  memory : Nat
  passes : Nat
  lanes : Nat
  salt : Bytes
  tag : Bytes
deriving DecidableEq, Repr

/-- The string is longer than its buffer, which also holds a closing zero. -/
structure EncodingError where
  needed : Nat
  capacity : Int
deriving DecidableEq, Repr

/-- A capacity that is too long to be written leaves only the error of writing it. -/
def EncodingError.message (error : EncodingError) : Except Numeral.DigitsError Text :=
  (Numeral.written error.capacity).map fun capacity =>
    Text.ofString s!"encoded hash needs {error.needed} bytes, buffer holds {capacity}"

namespace Phc

def text (hash : Phc) : String :=
  s!"$argon2{hash.variant.letter}$v={Hash.Argon2.version}" ++
  s!"$m={hash.memory},t={hash.passes},p={hash.lanes}" ++
  s!"${String.ofList hash.salt.base64}${String.ofList hash.tag.base64}"

/-- The encoded hash of a finished context carries the memory that was handed over. -/
def ofContext (context : Context) (variant : Variant) : Phc :=
  { variant, memory := context.effectiveMemory, passes := context.passes
    lanes := context.lanes, salt := context.salt, tag := context.output }

end Phc

/-- The encoded hash if it fits, and never a part of it. -/
def Context.encode (context : Context) (variant : Variant) (capacity : Int) :
    Except EncodingError String :=
  let encoded := (Phc.ofContext context variant).text
  let needed := encoded.length + 1
  if capacity < needed then .error ⟨needed, capacity⟩ else .ok encoded

end Argon2Workbench
