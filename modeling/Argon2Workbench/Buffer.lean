import Argon2Workbench.Number.Power

namespace Argon2Workbench

class Machine where
  /-- A buffer of this length or longer finds no memory. -/
  memory : Nat
  /-- Memory ends before the lengths do that are counted in. -/
  counted : memory ≤ twoTo 63
  /-- The last points of the standard grid are worked out in four gibibytes. -/
  ample : twoTo 32 < memory

theorem Machine.found [Machine] {length : Nat} (short : length ≤ twoTo 32) :
    length < Machine.memory :=
  Nat.lt_of_le_of_lt short Machine.ample

abbrev Machine.workstation : Machine where
  memory := twoTo 36
  counted := by decide
  ample := by decide

inductive BufferError where
  | tooWide
  | noMemory
deriving DecidableEq, Repr

def BufferError.message : BufferError → String
  | tooWide => "cannot fit 'int' into an index-sized integer"
  | noMemory => ""

def BufferError.ofLength? [Machine] (length : Nat) : Option BufferError :=
  if twoTo 63 ≤ length then some tooWide
  else if Machine.memory ≤ length then some noMemory
  else none

end Argon2Workbench
