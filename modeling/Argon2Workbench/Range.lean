import Argon2Workbench.Number.Power

namespace Argon2Workbench

inductive WordType where
  | unsigned
  | signed
deriving DecidableEq, Repr

namespace WordType

def name : WordType → String
  | unsigned => "uint32_t"
  | signed => "32-bit int"

def holds (type : WordType) (bits : Nat) (value : Int) : Bool :=
  match type with
  | unsigned => 0 ≤ value && value < twoTo bits
  | signed => -(twoTo (bits - 1) : Int) ≤ value && value < twoTo (bits - 1)

end WordType

structure RangeError where
  value : Int
  type : WordType
deriving DecidableEq, Repr

/-- Beyond 64 bits the value is not even shown. -/
def RangeError.message (error : RangeError) : String :=
  if error.type.holds 64 error.value then
    s!"integer {error.value} does not fit '{error.type.name}'"
  else "int too big to convert"

structure PackError where
  value : Nat
deriving DecidableEq, Repr

def PackError.message (error : PackError) : String :=
  if error.value < twoTo 64 then "'I' format requires 0 <= number <= 4294967295"
  else "argument out of range"

end Argon2Workbench
