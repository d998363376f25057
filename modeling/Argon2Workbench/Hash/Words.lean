import Argon2Workbench.Bytes
import Argon2Workbench.Number.Power

/-! Sixty-four-bit words, sixteen at a time, and their little-endian bytes.

A `Row` is the unit on which both the BLAKE2b round and the Argon2 permutation
work: a four by four square of words read line by line. Naming the sixteen words
keeps each of them in a register while a row is mixed.
-/

namespace Argon2Workbench.Hash

/-- The `width` low bytes of a natural number, least significant first. -/
def littleEndian : (width : Nat) → Nat → Bytes
  | 0, _ => []
  | width + 1, value => UInt8.ofNat value :: littleEndian width (value / 256)

theorem length_littleEndian (width value : Nat) : (littleEndian width value).length = width := by
  induction width generalizing value with
  | zero => rfl
  | succ width ih => simp [littleEndian, ih]

def wordBytes (word : UInt64) : Bytes :=
  littleEndian 8 word.toNat

def wordOfBytes (bytes : Bytes) : UInt64 :=
  bytes.foldr (fun byte word => word <<< 8 ||| byte.toUInt64) 0

/-- Rotation to the right by `count` places, for `0 < count < 64`. -/
@[inline] def rotateRight (word count : UInt64) : UInt64 :=
  word >>> count ||| word <<< (64 - count)

structure Row where
  (w0 w1 w2 w3 w4 w5 w6 w7 w8 w9 w10 w11 w12 w13 w14 w15 : UInt64)

namespace Row

@[inline] def ofWords (word : Nat → UInt64) : Row :=
  { w0 := word 0, w1 := word 1, w2 := word 2, w3 := word 3
    w4 := word 4, w5 := word 5, w6 := word 6, w7 := word 7
    w8 := word 8, w9 := word 9, w10 := word 10, w11 := word 11
    w12 := word 12, w13 := word 13, w14 := word 14, w15 := word 15 }

def words (row : Row) : List UInt64 :=
  [row.w0, row.w1, row.w2, row.w3, row.w4, row.w5, row.w6, row.w7,
   row.w8, row.w9, row.w10, row.w11, row.w12, row.w13, row.w14, row.w15]

def zero : Row := ofWords fun _ => 0

instance : Inhabited Row := ⟨zero⟩

@[inline] def xor (left right : Row) : Row :=
  { w0 := left.w0 ^^^ right.w0, w1 := left.w1 ^^^ right.w1
    w2 := left.w2 ^^^ right.w2, w3 := left.w3 ^^^ right.w3
    w4 := left.w4 ^^^ right.w4, w5 := left.w5 ^^^ right.w5
    w6 := left.w6 ^^^ right.w6, w7 := left.w7 ^^^ right.w7
    w8 := left.w8 ^^^ right.w8, w9 := left.w9 ^^^ right.w9
    w10 := left.w10 ^^^ right.w10, w11 := left.w11 ^^^ right.w11
    w12 := left.w12 ^^^ right.w12, w13 := left.w13 ^^^ right.w13
    w14 := left.w14 ^^^ right.w14, w15 := left.w15 ^^^ right.w15 }

end Row

structure Quad where
  (a b c d : UInt64)

/-- Applies a mixing step to the four columns of the square and then to its four
diagonals. The step is told which of the eight it is. -/
@[inline] def Row.mixed (row : Row) (step : Nat → Quad → Quad) : Row :=
  let c0 := step 0 ⟨row.w0, row.w4, row.w8, row.w12⟩
  let c1 := step 1 ⟨row.w1, row.w5, row.w9, row.w13⟩
  let c2 := step 2 ⟨row.w2, row.w6, row.w10, row.w14⟩
  let c3 := step 3 ⟨row.w3, row.w7, row.w11, row.w15⟩
  let d0 := step 4 ⟨c0.a, c1.b, c2.c, c3.d⟩
  let d1 := step 5 ⟨c1.a, c2.b, c3.c, c0.d⟩
  let d2 := step 6 ⟨c2.a, c3.b, c0.c, c1.d⟩
  let d3 := step 7 ⟨c3.a, c0.b, c1.c, c2.d⟩
  { w0 := d0.a, w1 := d1.a, w2 := d2.a, w3 := d3.a
    w4 := d3.b, w5 := d0.b, w6 := d1.b, w7 := d2.b
    w8 := d2.c, w9 := d3.c, w10 := d0.c, w11 := d1.c
    w12 := d1.d, w13 := d2.d, w14 := d3.d, w15 := d0.d }

end Argon2Workbench.Hash
