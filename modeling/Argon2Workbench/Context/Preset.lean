import Argon2Workbench.Context.Basic

namespace Argon2Workbench.Request

def run (passes memory lanes threads : Nat) (password : Bytes) : Request :=
  { outputLength := 32, password, salt := Bytes.zeros 16, passes, memory, lanes, threads }

/-- A measured point: one pass, as many lanes as threads. -/
def measurement (memory threads : Int) : Request :=
  { outputLength := 16, password := Bytes.zeros 16, salt := List.replicate 16 1
    passes := 1, memory, lanes := threads, threads }

def testVector (callbacks : Callbacks) : Request :=
  { outputLength := 32
    password := List.replicate 32 1
    salt := List.replicate 16 2
    secret := some (List.replicate 8 3)
    associated := some (List.replicate 12 4)
    passes := 3, memory := 16, lanes := 4, threads := 4
    callbacks, printInternals := true }

end Argon2Workbench.Request
