import Argon2Workbench.Buffer
import Argon2Workbench.Log.Record

/-! An allocator that keeps account of its blocks.

Addresses are handed in from outside, so that several allocators may share one pool
and a block may be offered to an allocator that does not own it.
-/

namespace Argon2Workbench

variable [Machine]

abbrev Address := Nat

structure Allocator where
  /-- The longest block that is granted; zero stands for no limit. -/
  limit : Int := 0
  /-- The blocks that are out, latest last, each with its length. -/
  blocks : List (Address × Nat) := []
  /-- The sum of all lengths ever granted. -/
  total : Nat := 0
deriving DecidableEq, Repr

structure Allocation where
  allocator : Allocator
  /-- The length of the new block; none where the request was turned down. -/
  granted : Option Nat
  log : List Log.Record := []

namespace Allocator

def logger : String := "argon2_harness.crypto.allocator"

inductive LengthError where
  | negative
  | tooWide
deriving DecidableEq, Repr

def LengthError.message : LengthError → String
  | negative => "negative array length"
  | tooWide => BufferError.tooWide.message

def outstanding (allocator : Allocator) : Nat :=
  allocator.blocks.length

def add (allocator : Allocator) (address : Address) (length : Nat) : Allocator :=
  { allocator with
    blocks := allocator.blocks ++ [(address, length)]
    total := allocator.total + length }

/-- Asks for a block at `address`. The limit is looked at before the length is. -/
def allocate (allocator : Allocator) (length : Int) (address : Address) :
    Except LengthError Allocation :=
  if allocator.limit ≠ 0 ∧ allocator.limit < length then
    .ok {
      allocator, granted := none
      log := [{ level := .warning, logger
                message := s!"refusing allocation of {length} bytes (limit {allocator.limit})" }] }
  else if (twoTo 63 : Int) ≤ length ∨ length < -(twoTo 63 : Int) then .error .tooWide
  else if length < 0 then .error .negative
  else if Machine.memory ≤ length.toNat then
    .ok {
      allocator, granted := none
      log := [{ level := .error, logger, message := s!"allocation of {length} bytes failed" }] }
  else .ok { allocator := allocator.add address length.toNat, granted := some length.toNat }

/-- Takes a block back. The null address is passed over, and the length matters only to
the message about a block that is not out. -/
def free (allocator : Allocator) (block : Option Address) (length : Int) :
    Allocator × List Log.Record :=
  match block with
  | none => (allocator, [])
  | some address =>
      if allocator.blocks.any (·.1 == address) then
        ({ allocator with blocks := allocator.blocks.filter (·.1 != address) }, [])
      else
        (allocator, [{ level := .warning, logger
                       message := s!"free of unknown block ({length} bytes)" }])

def freshAddress (allocator : Allocator) : Address :=
  allocator.blocks.foldr (fun block greatest => max (block.1 + 1) greatest) 1

end Allocator

end Argon2Workbench
