import Argon2Workbench.Files
import Argon2Workbench.Text.Utf8

namespace Argon2Workbench

namespace Text.Utf8

def Defect.text : Defect → String
  | .badStart => "invalid start byte"
  | .badContinuation => "invalid continuation byte"
  | .truncated => "unexpected end of data"

def Malformed.place (malformed : Malformed) : String :=
  match malformed.bytes with
  | [byte] => s!"byte 0x{String.ofList (Bytes.hex [byte])} in position {malformed.position}"
  | bytes => s!"bytes in position {malformed.position}-{malformed.position + bytes.length - 1}"

def Malformed.message (malformed : Malformed) : String :=
  s!"'utf-8' codec can't decode {malformed.place}: {malformed.defect.text}"

end Text.Utf8

namespace Files

inductive ReadError where
  | access (error : Error)
  | malformed (piece : Text.Utf8.Malformed)

def ReadError.message : ReadError → String
  | access error => error.message
  | malformed piece => piece.message

/-- Line breaks of two characters and single carriage returns become line feeds. -/
def lineFeeds : List Char → List Char
  | [] => []
  | '\r' :: '\n' :: rest => '\n' :: lineFeeds rest
  | character :: rest => (if character = '\r' then '\n' else character) :: lineFeeds rest

theorem lineFeeds_eq_self {characters : List Char} (plain : '\r' ∉ characters) :
    lineFeeds characters = characters := by
  fun_induction lineFeeds characters with
  | case1 => rfl
  | case2 => simp at plain
  | case3 character rest _ ih =>
      have rest_plain : '\r' ∉ rest := fun member => plain (List.mem_cons_of_mem _ member)
      have other : character ≠ '\r' := fun same => plain (same ▸ List.mem_cons_self)
      simp [ih rest_plain, other]

def readText (files : Files) (path : Text) : Except ReadError String := do
  let bytes ← (files.read path).mapError .access
  let pieces := Text.Utf8.pieces bytes
  match Text.Utf8.firstMalformed 0 pieces with
  | some piece => throw (.malformed piece)
  | none => return String.ofList (lineFeeds (Text.Utf8.decodeReplacing bytes).toList)

inductive WriteError where
  | access (error : Error)
  | unencodable (error : Text.Unencodable)

def WriteError.message : WriteError → String
  | access error => error.message
  | unencodable error => error.message

/-- Writes a text at the end of a file. The file is there even if the text cannot be
written. -/
def appendText (files : Files) (path text : Text) : Files × Except WriteError Unit :=
  match files.append path (text.strictBytes.toOption.getD []) with
  | .error error => (files, .error (.access error))
  | .ok written => (written, (text.strictBytes.mapError .unencodable).map fun _ => ())

end Files

end Argon2Workbench
