import Argon2Workbench.Text.Encodable
import Mathlib.Data.List.Basic

namespace Argon2Workbench.Text

def IsReceived (text : Text) : Prop :=
  ∀ rune ∈ text, rune.isHalf = false

theorem isReceived_ofBytes (bytes : Bytes) : IsReceived (ofBytes bytes) := by
  intro rune member
  obtain ⟨piece, -, inPiece⟩ := List.mem_flatMap.mp member
  cases piece with
  | char character =>
      rw [List.mem_singleton.mp inPiece]
      rfl
  | malformed defect stray =>
      obtain ⟨byte, -, rfl⟩ := List.mem_map.mp inPiece
      rfl

theorem IsReceived.suffix {text behind : Text} (received : text.IsReceived)
    (suffix : behind <:+ text) : behind.IsReceived :=
  fun rune member => received rune (suffix.subset member)

theorem IsReceived.encoded {text : Text} (received : text.IsReceived) :
    text.encoded = .ok text.bytes := by
  have none : text.findIdx? Rune.isHalf = none := by
    rw [List.findIdx?_eq_none_iff]
    exact received
  simp only [Text.encoded, unencodable?, none]

theorem length_bytes_of_suffix {text behind : Text} (suffix : behind <:+ text) :
    behind.bytes.length ≤ text.bytes.length := by
  obtain ⟨front, rfl⟩ := suffix
  simp [bytes, List.flatMap_append]

end Argon2Workbench.Text
