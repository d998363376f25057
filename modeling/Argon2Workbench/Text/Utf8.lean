import Argon2Workbench.Bytes

/-! UTF-8: encoding, strict decoding, and the division of any byte string into
characters and malformed pieces.

A malformed piece is as long as it can be while it could still have begun a
character, so the replacement form shows one mark for each piece.
-/

namespace Argon2Workbench.Text

def utf8 (text : String) : Bytes :=
  text.toList.flatMap String.utf8EncodeChar

namespace Utf8

inductive Defect where
  | badStart
  | badContinuation
  | truncated
deriving DecidableEq, Repr

inductive Piece where
  | char (character : Char)
  | malformed (defect : Defect) (bytes : Bytes)

/-- What a leading byte announces: the bits it carries, the range of the byte that
follows it, and the number of bytes after that one. -/
structure Lead where
  bits : Nat
  low : UInt8
  high : UInt8
  more : Nat

def lead? (byte : UInt8) : Option Lead :=
  if byte < 0xc2 then none
  else if byte ≤ 0xdf then some ⟨byte.toNat - 0xc0, 0x80, 0xbf, 0⟩
  else if byte = 0xe0 then some ⟨0, 0xa0, 0xbf, 1⟩
  else if byte = 0xed then some ⟨0xd, 0x80, 0x9f, 1⟩
  else if byte ≤ 0xef then some ⟨byte.toNat - 0xe0, 0x80, 0xbf, 1⟩
  else if byte = 0xf0 then some ⟨0, 0x90, 0xbf, 2⟩
  else if byte ≤ 0xf3 then some ⟨byte.toNat - 0xf0, 0x80, 0xbf, 2⟩
  else if byte = 0xf4 then some ⟨4, 0x80, 0x8f, 2⟩
  else none

def within (low high byte : UInt8) : Bool :=
  low ≤ byte && byte ≤ high

def joined (bits : Nat) (byte : UInt8) : Nat :=
  bits * 64 + byte.toNat % 64

def pieces : Bytes → List Piece
  | [] => []
  | first :: rest =>
      if first < 0x80 then .char (Char.ofNat first.toNat) :: pieces rest
      else match lead? first with
        | none => .malformed .badStart [first] :: pieces rest
        | some lead =>
            match rest with
            | [] => [.malformed .truncated [first]]
            | second :: rest₁ =>
                if !within lead.low lead.high second then
                  .malformed .badContinuation [first] :: pieces (second :: rest₁)
                else if lead.more = 0 then
                  .char (Char.ofNat (joined lead.bits second)) :: pieces rest₁
                else match rest₁ with
                  | [] => [.malformed .truncated [first, second]]
                  | third :: rest₂ =>
                      if !within 0x80 0xbf third then
                        .malformed .badContinuation [first, second] :: pieces (third :: rest₂)
                      else if lead.more = 1 then
                        .char (Char.ofNat (joined (joined lead.bits second) third)) :: pieces rest₂
                      else match rest₂ with
                        | [] => [.malformed .truncated [first, second, third]]
                        | fourth :: rest₃ =>
                            if !within 0x80 0xbf fourth then
                              .malformed .badContinuation [first, second, third] :: pieces (fourth :: rest₃)
                            else
                              let bits := joined (joined (joined lead.bits second) third) fourth
                              .char (Char.ofNat bits) :: pieces rest₃

def decodeReplacing (bytes : Bytes) : String :=
  String.ofList <| (pieces bytes).map fun
    | .char character => character
    | .malformed .. => '\uFFFD'

/-- The first malformed piece: its defect, its place and its bytes. -/
structure Malformed where
  defect : Defect
  position : Nat
  bytes : Bytes

def firstMalformed (position : Nat) : List Piece → Option Malformed
  | [] => none
  | .char character :: rest => firstMalformed (position + character.utf8Size) rest
  | .malformed defect bytes :: _ => some ⟨defect, position, bytes⟩

end Utf8

end Argon2Workbench.Text
