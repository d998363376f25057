import Argon2Workbench.Number.Numeral
import Argon2Workbench.Text.Rune

namespace Argon2Workbench

structure Grid where
  memoryCosts : List Nat
  threads : List Int
deriving DecidableEq, Repr

namespace Grid

inductive Error where
  | emptyRange (low high : Int)
  | negativePower
deriving DecidableEq, Repr

def Error.message : Error → Except Numeral.DigitsError Text
  | emptyRange low high => do
      return Text.ofString
        s!"empty memory range 2^{← Numeral.written low}..2^{← Numeral.written high}"
  | negativePower => .ok "negative shift count"

def minPower : Int := 10
def maxPower : Int := 22
def defaultThreads : List Int := [1, 2, 4, 6, 8, 16]

def ofPowers (low high : Nat) (threads : List Int) : Grid :=
  { memoryCosts := (List.range' low (high + 1 - low)).map twoTo, threads }

/-- The memory costs from `2 ^ low` to `2 ^ high`, each with all thread counts. -/
def build (low high : Int) (threads : List Int) : Except Error Grid :=
  if high < low then .error (.emptyRange low high)
  else if low < 0 then .error .negativePower
  else .ok (ofPowers low.toNat high.toNat threads)

def standard : Grid :=
  ofPowers minPower.toNat maxPower.toNat defaultThreads

def points (grid : Grid) : List (Nat × Int) :=
  grid.memoryCosts.flatMap fun memory => grid.threads.map (memory, ·)

def size (grid : Grid) : Nat :=
  grid.memoryCosts.length * grid.threads.length

theorem length_points (grid : Grid) : grid.points.length = grid.size := by
  simp [points, size, List.length_flatMap, List.map_const']

/-- The grid that is measured: a missing one, and one without points, gives way to the
standard grid. -/
def chosen (grid : Option Grid) : Grid :=
  match grid with
  | none => standard
  | some grid => if grid.size = 0 then standard else grid

end Grid

end Argon2Workbench
