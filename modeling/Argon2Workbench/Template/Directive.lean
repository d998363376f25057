import Argon2Workbench.Text.Rune

/-! The pieces of a template.

A directive starts with a percent sign and ends with a letter that says how an argument is
shown. Between the two there may be, in this order, a key in parentheses, flags, a width,
a precision behind a point, and a letter for the size of the argument, which means
nothing. Two percent signs in a row are one that stands for itself.
-/

namespace Argon2Workbench.Template

open Text (Rune)

inductive Key where
  | absent
  | named (name : Text)
  | unclosed
deriving DecidableEq, Repr

structure Flags where
  left : Bool := false
  plus : Bool := false
  blank : Bool := false
  /-- A number shows its base, or a point that could be left out. -/
  alternate : Bool := false
  zero : Bool := false
deriving DecidableEq, Repr

inductive Size where
  | absent
  | given (value : Nat)
  | supplied
deriving DecidableEq, Repr

structure Directive where
  key : Key := .absent
  flags : Flags := {}
  width : Size := .absent
  precision : Size := .absent
  /-- None where the template ends before it. -/
  letter : Option Rune := none
deriving DecidableEq, Repr

inductive Piece where
  | plain (rune : Rune)
  /-- The place is that of the letter in the template. -/
  | directive (directive : Directive) (place : Nat)
deriving DecidableEq, Repr

/-- A text up to the parenthesis that closes it, and what follows. The parentheses that
were opened inside are counted. -/
def closing (opened : Nat) : Text → Option (Text × Text)
  | [] => none
  | .scalar ')' :: rest =>
      match opened with
      | 0 => some ([], rest)
      | opened + 1 => (closing opened rest).map fun (name, rest) => (.scalar ')' :: name, rest)
  | .scalar '(' :: rest =>
      (closing (opened + 1) rest).map fun (name, rest) => (.scalar '(' :: name, rest)
  | rune :: rest => (closing opened rest).map fun (name, rest) => (rune :: name, rest)

def readKey : Text → Key × Text
  | .scalar '(' :: rest =>
      match closing 0 rest with
      | some (name, rest) => (.named name, rest)
      | none => (.unclosed, [])
  | text => (.absent, text)

def readFlags (flags : Flags) : Text → Flags × Text
  | .scalar '-' :: rest => readFlags { flags with left := true } rest
  | .scalar '+' :: rest => readFlags { flags with plus := true } rest
  | .scalar ' ' :: rest => readFlags { flags with blank := true } rest
  | .scalar '#' :: rest => readFlags { flags with alternate := true } rest
  | .scalar '0' :: rest => readFlags { flags with zero := true } rest
  | text => (flags, text)

def digitOf? : Rune → Option Nat
  | .scalar character =>
      if '0' ≤ character && character ≤ '9' then some (character.toNat - 48) else none
  | _ => none

def readDigits (value : Nat) : Text → Nat × Text
  | [] => (value, [])
  | rune :: rest =>
      match digitOf? rune with
      | some digit => readDigits (10 * value + digit) rest
      | none => (value, rune :: rest)

def readSize : Text → Size × Text
  | [] => (.absent, [])
  | rune :: rest =>
      if rune = .scalar '*' then (.supplied, rest)
      else match digitOf? rune with
        | some digit =>
            let (value, rest) := readDigits digit rest
            (.given value, rest)
        | none => (.absent, rune :: rest)

/-- A point with nothing behind it gives zero. -/
def readPrecision : Text → Size × Text
  | .scalar '.' :: rest =>
      match readSize rest with
      | (.absent, rest) => (.given 0, rest)
      | (size, rest) => (size, rest)
  | text => (.absent, text)

def dropSizeLetter : Text → Text
  | .scalar 'h' :: rest => rest
  | .scalar 'l' :: rest => rest
  | .scalar 'L' :: rest => rest
  | text => text

def Directive.read (text : Text) : Directive × Text :=
  let (key, text) := readKey text
  let (flags, text) := readFlags {} text
  let (width, text) := readSize text
  let (precision, text) := readPrecision text
  match dropSizeLetter text with
  | [] => ({ key, flags, width, precision }, [])
  | letter :: rest => ({ key, flags, width, precision, letter := some letter }, rest)

theorem closing_length {opened : Nat} {text name rest : Text}
    (found : closing opened text = some (name, rest)) : rest.length ≤ text.length := by
  fun_induction closing opened text generalizing name rest with
  | case1 => simp at found
  | case2 => simp_all
  | case3 _ _ ih | case4 _ _ ih | case5 _ _ _ _ _ ih =>
      simp only [Option.map_eq_some_iff, Prod.exists, Prod.mk.injEq] at found
      obtain ⟨_, _, found, rfl, rfl⟩ := found
      exact Nat.le_succ_of_le (ih found)

theorem readKey_length (text : Text) : (readKey text).2.length ≤ text.length := by
  unfold readKey
  split
  · split
    · next found => exact Nat.le_succ_of_le (closing_length found)
    · simp
  · exact Nat.le_refl _

theorem readFlags_length (flags : Flags) (text : Text) :
    (readFlags flags text).2.length ≤ text.length := by
  fun_induction readFlags flags text with
  | case6 => exact Nat.le_refl _
  | _ => exact Nat.le_succ_of_le (by assumption)

theorem readDigits_length (value : Nat) (text : Text) :
    (readDigits value text).2.length ≤ text.length := by
  fun_induction readDigits value text with
  | case1 => exact Nat.le_refl _
  | case2 _ _ _ _ _ ih => exact Nat.le_succ_of_le ih
  | case3 => exact Nat.le_refl _

theorem readSize_length (text : Text) : (readSize text).2.length ≤ text.length := by
  unfold readSize
  split
  · exact Nat.le_refl _
  · split
    · exact Nat.le_succ _
    · split
      · exact Nat.le_succ_of_le (readDigits_length _ _)
      · exact Nat.le_refl _

theorem readPrecision_length (text : Text) : (readPrecision text).2.length ≤ text.length := by
  unfold readPrecision
  split
  · next rest =>
      have bound := readSize_length rest
      split <;> simp_all <;> omega
  · exact Nat.le_refl _

theorem dropSizeLetter_length (text : Text) : (dropSizeLetter text).length ≤ text.length := by
  unfold dropSizeLetter
  split <;> simp

theorem Directive.read_length (text : Text) : (read text).2.length ≤ text.length := by
  have key := readKey_length text
  have flags := readFlags_length {} (readKey text).2
  have width := readSize_length (readFlags {} (readKey text).2).2
  have precision := readPrecision_length (readSize (readFlags {} (readKey text).2).2).2
  have letter := dropSizeLetter_length
    (readPrecision (readSize (readFlags {} (readKey text).2).2).2).2
  simp only [read]
  split
  · simp
  · next same =>
      rw [same] at letter
      simp only [List.length_cons] at letter
      dsimp only
      omega

/-- The pieces of what is left of a template of a certain size. -/
def piecesWithin (size : Nat) (text : Text) : List Piece :=
  match text with
  | [] => []
  | .scalar '%' :: .scalar '%' :: rest => .plain (.scalar '%') :: piecesWithin size rest
  | .scalar '%' :: rest =>
      let result := Directive.read rest
      .directive result.1 (size - result.2.length - 1) :: piecesWithin size result.2
  | rune :: rest => .plain rune :: piecesWithin size rest
termination_by text.length
decreasing_by
  · simp only [List.length_cons]; omega
  · exact Nat.lt_succ_of_le (Directive.read_length rest)
  · exact Nat.lt_succ_self _

def pieces (template : Text) : List Piece :=
  piecesWithin template.length template

end Argon2Workbench.Template
