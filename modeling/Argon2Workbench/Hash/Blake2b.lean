import Argon2Workbench.Hash.Words

namespace Argon2Workbench.Hash.Blake2b

def initialVector : List UInt64 :=
  [0x6a09e667f3bcc908, 0xbb67ae8584caa73b, 0x3c6ef372fe94f82b, 0xa54ff53a5f1d36f1,
   0x510e527fade682d1, 0x9b05688c2b3e6c1f, 0x1f83d9abfb41bd6b, 0x5be0cd19137e2179]

/-- The order in which each of the twelve rounds takes the message words. -/
def schedule : List (List Nat) :=
  let distinct := [
    [0, 1, 2, 3, 4, 5, 6, 7, 8, 9, 10, 11, 12, 13, 14, 15],
    [14, 10, 4, 8, 9, 15, 13, 6, 1, 12, 0, 2, 11, 7, 5, 3],
    [11, 8, 12, 0, 5, 2, 15, 13, 10, 14, 3, 6, 7, 1, 9, 4],
    [7, 9, 3, 1, 13, 12, 11, 14, 2, 6, 5, 10, 4, 0, 15, 8],
    [9, 0, 5, 7, 2, 4, 10, 15, 14, 1, 11, 12, 6, 8, 3, 13],
    [2, 12, 6, 10, 0, 11, 8, 3, 4, 13, 7, 5, 15, 14, 1, 9],
    [12, 5, 1, 15, 14, 13, 4, 10, 0, 7, 6, 3, 9, 2, 8, 11],
    [13, 11, 7, 14, 12, 1, 3, 9, 5, 0, 15, 4, 8, 6, 2, 10],
    [6, 15, 14, 9, 11, 3, 0, 8, 12, 2, 13, 7, 1, 4, 10, 5],
    [10, 2, 8, 4, 7, 6, 1, 5, 15, 11, 9, 14, 3, 12, 13, 0]]
  distinct ++ distinct.take 2

@[inline] def step (x y : UInt64) (quad : Quad) : Quad :=
  let a := quad.a + quad.b + x
  let d := rotateRight (quad.d ^^^ a) 32
  let c := quad.c + d
  let b := rotateRight (quad.b ^^^ c) 24
  let a := a + b + y
  let d := rotateRight (d ^^^ a) 16
  let c := c + d
  let b := rotateRight (b ^^^ c) 63
  ⟨a, b, c, d⟩

def round (message : Array UInt64) (row : Row) (order : List Nat) : Row :=
  let picked := (order.map (message.getD · 0)).toArray
  row.mixed fun index => step (picked.getD (2 * index) 0) (picked.getD (2 * index + 1) 0)

/-- The eight chaining words, which a digest is cut from. -/
structure State where
  (h0 h1 h2 h3 h4 h5 h6 h7 : UInt64)

namespace State

def words (state : State) : List UInt64 :=
  [state.h0, state.h1, state.h2, state.h3, state.h4, state.h5, state.h6, state.h7]

def bytes (state : State) : Bytes :=
  state.words.flatMap wordBytes

theorem length_bytes (state : State) : state.bytes.length = 64 := by
  simp [bytes, words, wordBytes, length_littleEndian]

/-- The state before any block: the first word carries the digest length. -/
def initial (digestLength : Nat) : State :=
  let iv := fun index => initialVector.getD index 0
  { h0 := iv 0 ^^^ 0x01010000 ^^^ UInt64.ofNat digestLength, h1 := iv 1, h2 := iv 2, h3 := iv 3
    h4 := iv 4, h5 := iv 5, h6 := iv 6, h7 := iv 7 }

/-- Takes one block of 128 bytes in. `count` is the number of message bytes up to
the block's end, padding not included. -/
def absorb (state : State) (block : Bytes) (count : Nat) (last : Bool) : State :=
  let bytes := block.toArray
  let message := (Array.range 16).map fun index =>
    wordOfBytes ((bytes.extract (8 * index) (8 * index + 8)).toList)
  let iv := fun index => initialVector.getD index 0
  let start : Row :=
    { w0 := state.h0, w1 := state.h1, w2 := state.h2, w3 := state.h3
      w4 := state.h4, w5 := state.h5, w6 := state.h6, w7 := state.h7
      w8 := iv 0, w9 := iv 1, w10 := iv 2, w11 := iv 3
      w12 := iv 4 ^^^ UInt64.ofNat count, w13 := iv 5 ^^^ UInt64.ofNat (count / twoTo 64)
      w14 := if last then ~~~ (iv 6) else iv 6, w15 := iv 7 }
  let row := schedule.foldl (round message) start
  { h0 := state.h0 ^^^ row.w0 ^^^ row.w8, h1 := state.h1 ^^^ row.w1 ^^^ row.w9
    h2 := state.h2 ^^^ row.w2 ^^^ row.w10, h3 := state.h3 ^^^ row.w3 ^^^ row.w11
    h4 := state.h4 ^^^ row.w4 ^^^ row.w12, h5 := state.h5 ^^^ row.w5 ^^^ row.w13
    h6 := state.h6 ^^^ row.w6 ^^^ row.w14, h7 := state.h7 ^^^ row.w7 ^^^ row.w15 }

/-- Takes the rest of a message in, of which `taken` bytes came before. The block
that ends the message is the only padded one, and never an empty one unless the
whole message is. -/
def absorbAll (state : State) (taken : Nat) (message : Bytes) : State :=
  if message.length ≤ 128 then
    let padding := List.replicate (128 - message.length) 0
    state.absorb (message ++ padding) (taken + message.length) true
  else
    (state.absorb (message.take 128) (taken + 128) false).absorbAll (taken + 128) (message.drop 128)
termination_by message.length
decreasing_by simp only [List.length_drop]; omega

end State

def digest (digestLength : Nat) (message : Bytes) : Bytes :=
  ((State.initial digestLength).absorbAll 0 message).bytes.take digestLength

theorem length_digest {digestLength : Nat} (message : Bytes) (within : digestLength ≤ 64) :
    (digest digestLength message).length = digestLength := by
  simp only [digest, List.length_take, State.length_bytes]
  omega

end Argon2Workbench.Hash.Blake2b
