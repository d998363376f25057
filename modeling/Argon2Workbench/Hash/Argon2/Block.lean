import Argon2Workbench.Hash.Words

namespace Argon2Workbench.Hash.Argon2

/-- Sum plus twice the product of the low halves, modulo `2 ^ 64`. -/
@[inline] def multiplyAdd (x y : UInt64) : UInt64 :=
  x + y + 2 * (x &&& 0xffffffff) * (y &&& 0xffffffff)

@[inline] def step (quad : Quad) : Quad :=
  let a := multiplyAdd quad.a quad.b
  let d := rotateRight (quad.d ^^^ a) 32
  let c := multiplyAdd quad.c d
  let b := rotateRight (quad.b ^^^ c) 24
  let a := multiplyAdd a b
  let d := rotateRight (d ^^^ a) 16
  let c := multiplyAdd c d
  let b := rotateRight (b ^^^ c) 63
  ⟨a, b, c, d⟩

def permute (row : Row) : Row :=
  row.mixed fun _ => step

structure Block where
  (r0 r1 r2 r3 r4 r5 r6 r7 : Row)

namespace Block

def zero : Block :=
  ⟨.zero, .zero, .zero, .zero, .zero, .zero, .zero, .zero⟩

instance : Inhabited Block := ⟨zero⟩

def rows (block : Block) : List Row :=
  [block.r0, block.r1, block.r2, block.r3, block.r4, block.r5, block.r6, block.r7]

def words (block : Block) : List UInt64 :=
  block.rows.flatMap Row.words

def bytes (block : Block) : Bytes :=
  block.words.flatMap wordBytes

def ofWords (word : Nat → UInt64) : Block :=
  let row := fun index => Row.ofWords fun column => word (16 * index + column)
  ⟨row 0, row 1, row 2, row 3, row 4, row 5, row 6, row 7⟩

def ofBytes (bytes : Bytes) : Block :=
  let stored := bytes.toArray
  ofWords fun index => wordOfBytes (stored.extract (8 * index) (8 * index + 8)).toList

@[inline] def map (change : Row → Row) (block : Block) : Block :=
  ⟨change block.r0, change block.r1, change block.r2, change block.r3,
   change block.r4, change block.r5, change block.r6, change block.r7⟩

def xor (left right : Block) : Block :=
  ⟨left.r0.xor right.r0, left.r1.xor right.r1, left.r2.xor right.r2, left.r3.xor right.r3,
   left.r4.xor right.r4, left.r5.xor right.r5, left.r6.xor right.r6, left.r7.xor right.r7⟩

@[inline] def column (first second : Row → UInt64) (block : Block) : Row :=
  { w0 := first block.r0, w1 := second block.r0, w2 := first block.r1, w3 := second block.r1
    w4 := first block.r2, w5 := second block.r2, w6 := first block.r3, w7 := second block.r3
    w8 := first block.r4, w9 := second block.r4, w10 := first block.r5, w11 := second block.r5
    w12 := first block.r6, w13 := second block.r6, w14 := first block.r7, w15 := second block.r7 }

/-- Exchanges rows and columns of the eight by eight square of word pairs. -/
def transpose (block : Block) : Block :=
  ⟨block.column Row.w0 Row.w1, block.column Row.w2 Row.w3,
   block.column Row.w4 Row.w5, block.column Row.w6 Row.w7,
   block.column Row.w8 Row.w9, block.column Row.w10 Row.w11,
   block.column Row.w12 Row.w13, block.column Row.w14 Row.w15⟩

/-- The compression function: permute the rows of the two blocks' difference, then its
columns, and add the difference back. -/
def compress (left right : Block) : Block :=
  let difference := left.xor right
  (((difference.map permute).transpose.map permute).transpose).xor difference

end Block

end Argon2Workbench.Hash.Argon2
