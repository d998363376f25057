import Argon2Workbench.CommandLine.Parameter
import Argon2Workbench.Number.Numeral

namespace Argon2Workbench.CommandLine

def integer? (text : Text) : Option Int := do
  let characters ← text.characters?
  (Numeral.readInteger (Text.trim Text.isBlank characters)).toOption

def passesModulus : Int := twoTo 24
def powerModulus : Int := 22
def lanesModulus : Int := 0xffffff
def threadsModulus : Int := 0xffffff

def wrap (modulus raw : Int) : Nat :=
  (raw % modulus).toNat

def wrapPasses (raw : Int) : Nat :=
  wrap passesModulus raw

/-- The number is the power of two that the memory is. -/
def wrapMemory (raw : Int) : Nat :=
  twoTo (wrap powerModulus raw)

/-- May come out as zero, which no context takes. -/
def wrapLanes (raw : Int) : Nat :=
  wrap lanesModulus raw

/-- May come out as zero, which no context takes. -/
def wrapThreads (raw : Int) : Nat :=
  wrap threadsModulus raw

theorem wrap_lt {modulus : Int} (positive : 0 < modulus) (raw : Int) :
    (wrap modulus raw : Int) < modulus := by
  have below := Int.emod_lt_of_pos raw positive
  have nonnegative := Int.emod_nonneg raw (by omega : modulus ≠ 0)
  simp only [wrap]
  omega

theorem wrap_eq_zero_iff {modulus : Int} (positive : 0 < modulus) (raw : Int) :
    wrap modulus raw = 0 ↔ modulus ∣ raw := by
  have nonnegative := Int.emod_nonneg raw (by omega : modulus ≠ 0)
  rw [Int.dvd_iff_emod_eq_zero, wrap]
  omega

end Argon2Workbench.CommandLine
