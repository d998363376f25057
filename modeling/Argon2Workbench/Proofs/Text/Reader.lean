import Argon2Workbench.Proofs.Text.Written
import Mathlib.Data.List.Basic

namespace Argon2Workbench

namespace Text

/-- The input is the characters of a line, or the lines of a text. -/
abbrev Reader (σ α : Type) := StateT (List σ) Option α

theorem Reader.bind_eq {σ α β : Type} {read : Reader σ α} {next : α → Reader σ β}
    {input rest : List σ} {value : α} (first : read input = some (value, rest)) :
    (read >>= next) input = next value rest := by
  simp only [bind, StateT.bind, first, Option.bind_some]

def label (text : String) : Reader Char Unit :=
  fun input => (text.toList.isPrefixOf? input).map fun rest => ((), rest)

theorem label_append (text : String) (rest : List Char) :
    label text (text.toList ++ rest) = some ((), rest) := by
  have cut : text.toList.isPrefixOf? (text.toList ++ rest) = some rest :=
    List.isPrefixOf?_eq_some_iff_append_eq.mpr rfl
  rw [label, cut, Option.map_some]

theorem label_toList (text : String) : label text text.toList = some ((), []) := by
  simpa using label_append text []

/-- Takes a number up to a fixed text, and that text. -/
def numberBefore (text : String) : Reader Char Nat := do
  let value ← (number? : Reader Char Nat)
  label text
  return value

theorem numberBefore_append {text : String} (stop : text.toList.head?.any (!·.isDigit) = true)
    (value : Nat) (rest : List Char) :
    numberBefore text (Nat.toDigits 10 value ++ (text.toList ++ rest)) = some (value, rest) := by
  have ended : (text.toList ++ rest).head?.all (!·.isDigit) = true := by
    cases characters : text.toList with
    | nil => simp [characters] at stop
    | cons first others => simpa [characters] using stop
  rw [numberBefore, Reader.bind_eq (number?_toDigits value ended),
    Reader.bind_eq (label_append text rest)]
  rfl

/-- Takes bytes in hexadecimal, which are all of the input. -/
def spacedBytes : Reader Char Bytes :=
  fun input => (Bytes.ofSpacedHex? input).map fun bytes => (bytes, [])

theorem spacedBytes_spacedHex (bytes : Bytes) :
    spacedBytes bytes.spacedHex = some (bytes, []) := by
  rw [spacedBytes, Bytes.ofSpacedHex?_spacedHex, Option.map_some]

def line {α : Type} (read : Reader Char α) : Reader (List Char) α
  | [] => none
  | first :: rest =>
      match read first with
      | some (value, []) => some (value, rest)
      | _ => none

def lineIf {α : Type} (read : Reader Char α) : Reader (List Char) (Option α) :=
  fun lines =>
    match line read lines with
    | some (value, rest) => some (some value, rest)
    | none => some (none, lines)

variable {α : Type} {read : Reader Char α}

theorem line_cons {first : List Char} {value : α} (whole : read first = some (value, []))
    (rest : List (List Char)) : line read (first :: rest) = some (value, rest) := by
  rw [line, whole]

theorem line_cons_none {first : List Char} (other : read first = none) (rest : List (List Char)) :
    line read (first :: rest) = none := by
  rw [line, other]

/-- A line that may be missing is told by the line behind it, which is another. -/
theorem lineIf_toList {write : α → String}
    (whole : ∀ value, read (write value).toList = some (value, [])) {rest : List (List Char)}
    (other : line read rest = none) (value : Option α) :
    lineIf read ((value.map write).toList.map String.toList ++ rest) = some (value, rest) := by
  cases value with
  | none =>
      change lineIf read rest = _
      rw [lineIf, other]
  | some value =>
      change lineIf read ((write value).toList :: rest) = _
      rw [lineIf, line_cons (whole value)]

end Text

end Argon2Workbench
