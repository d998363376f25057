import Argon2Workbench.Hash.Argon2.Block
import Argon2Workbench.Hash.Argon2.Inputs

/-! The memory of one computation: `lanes` rows of blocks, filled slice by slice.

Blocks of a segment refer only to finished segments of other lanes and to earlier
blocks of their own, so taking the lanes of a slice one after the other gives the
same memory as filling them at the same time. The number of threads is therefore
no input.
-/

namespace Argon2Workbench.Hash.Argon2

/-- Slices of a pass, which separate what lanes may see of each other. -/
def slices : Nat := 4

/-- The division of the memory. A lane has `slices` segments of equal length. -/
structure Layout where
  variant : Variant
  passes : Nat
  lanes : Nat
  segment : Nat

namespace Layout

def ofInputs (variant : Variant) (inputs : Inputs) : Layout :=
  { variant, passes := inputs.passes, lanes := inputs.lanes
    segment := inputs.memory / (slices * inputs.lanes) }

def laneLength (layout : Layout) : Nat :=
  slices * layout.segment

def blocks (layout : Layout) : Nat :=
  layout.lanes * layout.laneLength

end Layout

structure Position where
  pass : Nat
  slice : Nat
  lane : Nat
  index : Nat

namespace Position

def column (position : Position) (layout : Layout) : Nat :=
  position.slice * layout.segment + position.index

def address (position : Position) (layout : Layout) : Nat :=
  position.lane * layout.laneLength + position.column layout

/-- The block before this one in its lane; the lane closes into a ring. -/
def previous (position : Position) (layout : Layout) : Nat :=
  let column := position.column layout
  position.lane * layout.laneLength + (if column = 0 then layout.laneLength - 1 else column - 1)

/-- How many blocks of the referenced lane are open to this position. -/
def window (position : Position) (layout : Layout) (sameLane : Bool) : Nat :=
  let finished := if position.pass = 0 then position.slice * layout.segment
    else layout.laneLength - layout.segment
  if sameLane then finished + position.index - 1
  else if position.index = 0 then finished - 1
  else finished

def windowStart (position : Position) (layout : Layout) : Nat :=
  if position.pass = 0 || position.slice + 1 = slices then 0
  else (position.slice + 1) * layout.segment

/-- The address that a pseudo-random word selects. Its high half picks the lane; its
low half, squared so that recent blocks are likelier, picks the block. -/
def reference (position : Position) (layout : Layout) (random : UInt64) : Nat :=
  let lane := if position.pass = 0 && position.slice = 0 then position.lane
    else (random >>> 32).toNat % layout.lanes
  let window := position.window layout (lane == position.lane)
  let low := random.toNat % twoTo 32
  let distance := window * (low * low / twoTo 32) / twoTo 32
  let column := (position.windowStart layout + (window - 1 - distance)) % layout.laneLength
  lane * layout.laneLength + column

end Position

/-- One batch of 128 addresses of a segment; batches count from one. -/
def addressBatch (layout : Layout) (pass slice lane batch : Nat) : Block :=
  let header := [pass, lane, slice, layout.blocks, layout.passes, layout.variant.code, batch]
  let input := Block.ofWords fun index => UInt64.ofNat (header.getD index 0)
  Block.zero.compress (Block.zero.compress input)

/-- The pseudo-random words of a segment where they hang on its place alone. -/
def segmentAddresses (layout : Layout) (pass slice lane : Nat) : Array UInt64 :=
  match layout.variant with
  | .d => #[]
  | .i =>
      let batches := (layout.segment + 127) / 128
      ((List.range batches).flatMap fun batch =>
        (addressBatch layout pass slice lane (batch + 1)).words).toArray

abbrev Memory := Array Block

namespace Memory

/-- Computes the block at a position. From the second pass on the old block is
added in and not overwritten. -/
def fillBlock (layout : Layout) (addresses : Array UInt64) (memory : Memory)
    (position : Position) : Memory :=
  let previous := memory.getD (position.previous layout) .zero
  let random := match layout.variant with
    | .d => previous.r0.w0
    | .i => addresses.getD position.index 0
  let reference := memory.getD (position.reference layout random) .zero
  let address := position.address layout
  let compressed := previous.compress reference
  let block := if position.pass = 0 then compressed
    else compressed.xor (memory.getD address .zero)
  memory.setIfInBounds address block

def fillSegment (layout : Layout) (pass slice : Nat) (memory : Memory) (lane : Nat) : Memory :=
  let addresses := segmentAddresses layout pass slice lane
  let first := if pass = 0 && slice = 0 then 2 else 0
  (List.range' first (layout.segment - first)).foldl
    (fun memory index => memory.fillBlock layout addresses { pass, slice, lane, index }) memory

def fillSlice (layout : Layout) (pass : Nat) (memory : Memory) (slice : Nat) : Memory :=
  (List.range layout.lanes).foldl (fillSegment layout pass slice) memory

def fillPass (layout : Layout) (memory : Memory) (pass : Nat) : Memory :=
  (List.range slices).foldl (fillSlice layout pass) memory

/-- The first two blocks of a lane come from the initial hash. -/
def seed (initialHash : Bytes) (lane column : Nat) : Block :=
  .ofBytes (longHash 1024 (initialHash ++ littleEndian 4 column ++ littleEndian 4 lane))

def initial (layout : Layout) (initialHash : Bytes) : Memory :=
  (List.range layout.lanes).foldl
    (fun memory lane =>
      let start := lane * layout.laneLength
      (memory.setIfInBounds start (seed initialHash lane 0)).setIfInBounds (start + 1)
        (seed initialHash lane 1))
    (Array.replicate layout.blocks .zero)

def filled (layout : Layout) (initialHash : Bytes) : Memory :=
  (List.range layout.passes).foldl (fillPass layout) (initial layout initialHash)

def final (layout : Layout) (memory : Memory) : Block :=
  (List.range layout.lanes).foldl
    (fun sum lane => sum.xor (memory.getD ((lane + 1) * layout.laneLength - 1) .zero)) .zero

end Memory

def tag (variant : Variant) (inputs : Inputs) : Bytes :=
  let layout := Layout.ofInputs variant inputs
  let memory := Memory.filled layout (inputs.initialHash variant)
  longHash inputs.tagLength (memory.final layout).bytes

theorem length_tag (variant : Variant) (inputs : Inputs) :
    (tag variant inputs).length = inputs.tagLength :=
  length_longHash _ _

end Argon2Workbench.Hash.Argon2
