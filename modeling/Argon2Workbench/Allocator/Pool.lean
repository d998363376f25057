import Argon2Workbench.Allocator

/-! Several allocators over one pool of blocks.

A block stays in the pool when it is freed, so it may be freed again, or offered to an
allocator that does not own it, and no later block has its address.
-/

namespace Argon2Workbench

variable [Machine]

namespace Allocator

/-- The blocks are numbered in the order of the requests that brought them in; a request
that was turned down has a number without a block. -/
structure Pool where
  allocators : List Allocator
  blocks : List (Option Address) := []
deriving DecidableEq, Repr

inductive Demand where
  | allocate (length : Int)
  | free (block : Nat) (length : Int)
  | freeNull (length : Int)
deriving DecidableEq, Repr

structure Answer where
  result : Except LengthError (Option Nat)
  allocator : Allocator
  log : List Log.Record := []

namespace Pool

def ofLimits (limits : List Int) : Pool :=
  { allocators := limits.map fun limit => { limit } }

/-- An allocator that there is not has no blocks and no limit. -/
def allocator (pool : Pool) (index : Nat) : Allocator :=
  pool.allocators.getD index {}

def put (pool : Pool) (index : Nat) (allocator : Allocator) : Pool :=
  { pool with allocators := pool.allocators.set index allocator }

def nextAddress (pool : Pool) : Address :=
  pool.blocks.length + 1

def block (pool : Pool) (number : Nat) : Option Address :=
  (pool.blocks[number]?).join

def free (pool : Pool) (index : Nat) (block : Option Address) (length : Int) : Pool × Answer :=
  let (allocator, log) := (pool.allocator index).free block length
  (pool.put index allocator, { result := .ok none, allocator, log })

def perform (pool : Pool) (index : Nat) : Demand → Pool × Answer
  | .allocate length =>
      let address := pool.nextAddress
      match (pool.allocator index).allocate length address with
      | .error error => (pool, { result := .error error, allocator := pool.allocator index })
      | .ok allocation =>
          let block := allocation.granted.map fun _ => address
          ({ pool.put index allocation.allocator with blocks := pool.blocks ++ [block] },
           { result := .ok allocation.granted, allocator := allocation.allocator
             log := allocation.log })
  | .free block length => pool.free index (pool.block block) length
  | .freeNull length => pool.free index none length

end Pool

end Allocator

end Argon2Workbench
