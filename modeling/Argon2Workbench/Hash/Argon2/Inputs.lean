import Argon2Workbench.Hash.Blake2b

namespace Argon2Workbench.Hash.Argon2

/-- How reference blocks are chosen: from the memory's contents (Argon2d), or from
the position alone (Argon2i). -/
inductive Variant where
  | d
  | i
deriving DecidableEq, Repr

namespace Variant

def code : Variant → Nat
  | d => 0
  | i => 1

def letter : Variant → String
  | d => "d"
  | i => "i"

end Variant

/-- Version 1.3 of the algorithm. -/
def version : Nat := 19

structure Inputs where
  password : Bytes
  salt : Bytes
  secret : Bytes
  associated : Bytes
  tagLength : Nat
  passes : Nat
  /-- Memory in kibibytes, before it is rounded down to whole segments. -/
  memory : Nat
  lanes : Nat
deriving DecidableEq, Repr

def counted (field : Bytes) : Bytes :=
  littleEndian 4 field.length ++ field

def Inputs.initialMessage (inputs : Inputs) (variant : Variant) : Bytes :=
  littleEndian 4 inputs.lanes ++ littleEndian 4 inputs.tagLength ++
  littleEndian 4 inputs.memory ++ littleEndian 4 inputs.passes ++
  littleEndian 4 version ++ littleEndian 4 variant.code ++
  counted inputs.password ++ counted inputs.salt ++
  counted inputs.secret ++ counted inputs.associated

def Inputs.initialHash (inputs : Inputs) (variant : Variant) : Bytes :=
  Blake2b.digest 64 (inputs.initialMessage variant)

/-- The chain of 64-byte digests behind a long hash: half of each is put out, until at
most 64 bytes are missing and a digest of just that length ends it. -/
def stretch (previous : Bytes) (missing : Nat) : Bytes :=
  if missing ≤ 64 then
    Blake2b.digest missing previous
  else
    let next := Blake2b.digest 64 previous
    next.take 32 ++ stretch next (missing - 32)
termination_by missing

theorem length_stretch (previous : Bytes) (missing : Nat) :
    (stretch previous missing).length = missing := by
  fun_induction stretch previous missing with
  | case1 previous missing short => exact Blake2b.length_digest previous short
  | case2 previous missing long next ih =>
      simp only [List.length_append, List.length_take, ih, next,
        Blake2b.length_digest previous (Nat.le_refl 64)]
      omega

/-- The hash of any length. Up to 64 bytes it is one digest; a longer one continues
from a full digest of the same message. -/
def longHash (length : Nat) (message : Bytes) : Bytes :=
  let framed := littleEndian 4 length ++ message
  if length ≤ 64 then
    Blake2b.digest length framed
  else
    let first := Blake2b.digest 64 framed
    first.take 32 ++ stretch first (length - 32)

theorem length_longHash (length : Nat) (message : Bytes) :
    (longHash length message).length = length := by
  simp only [longHash]
  split
  · rename_i short
    exact Blake2b.length_digest _ short
  · simp only [List.length_append, List.length_take, length_stretch,
      Blake2b.length_digest _ (Nat.le_refl 64)]
    omega

end Argon2Workbench.Hash.Argon2
