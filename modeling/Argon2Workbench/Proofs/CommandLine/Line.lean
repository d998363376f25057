import Argon2Workbench.CommandLine.Parameters
import Mathlib.Algebra.Group.Int.Defs
import Mathlib.Algebra.Group.Nat.Defs
import Mathlib.Data.List.Basic
import Mathlib.Data.List.TakeWhile

/-! A command line read from left to right, once.

A name takes the token behind it, another token may carry a value behind a name, and
everything else is an operand. There is no divider in such a line and no second pass.
-/

namespace Argon2Workbench.CommandLine

namespace Parameter

/-- The value that a token carries for a parameter: behind the long name and an equals
sign, or behind the short name with or without one. -/
def valueIn? (token : Token) (parameter : Parameter) : Option Text :=
  ((parameter.attach []).isPrefixOf? token).or <|
    ((Text.ofString parameter.short ++ equalsSign).isPrefixOf? token).or <|
      (Text.ofString parameter.short).isPrefixOf? token

def carried? (token : Token) : Option (Parameter × Text) :=
  all.findSome? fun parameter => (valueIn? token parameter).map (parameter, ·)

end Parameter

inductive Item where
  | setting (parameter : Parameter) (value : Text)
  | operand (token : Token)
  | unfinished (parameter : Parameter)
deriving DecidableEq, Repr

namespace Item

def ofToken (token : Token) : Item :=
  match Parameter.carried? token with
  | some (parameter, value) => .setting parameter value
  | none => .operand token

def unfinished? : Item → Option Parameter
  | unfinished parameter => some parameter
  | _ => none

def setting? : Item → Option (Parameter × Text)
  | setting parameter value => some (parameter, value)
  | _ => none

def operand? : Item → Option Token
  | operand token => some token
  | _ => none

end Item

/-- The parameters for the numbers that are given, each of them brought into its range. -/
def Parameters.ofGiven (tag : Option Text) (number? : Parameter → Option Int)
    (password : Option Bytes) (mode : Mode) : Parameters :=
  { tag
    passes := ((number? .passes).getD 3 % 2 ^ 24).toNat
    memory := 2 ^ ((number? .memory).getD 12 % 22).toNat
    lanes := ((number? .lanes).getD 4 % 16777215).toNat
    threads := ((number? .threads).getD 4 % 16777215).toNat
    password
    mode }

abbrev Line := List Item

namespace Line

def ofTokens : List Token → Line
  | [] => []
  | [token] =>
      match Parameter.ofName? token with
      | some parameter => [.unfinished parameter]
      | none => [.ofToken token]
  | token :: value :: rest =>
      match Parameter.ofName? token with
      | some parameter => .setting parameter value :: ofTokens rest
      | none => .ofToken token :: ofTokens (value :: rest)

/-- Neither a token nor a value in a token is the divider. -/
def Undivided (tokens : List Token) : Prop :=
  divider ∉ tokens ∧ ∀ parameter, .setting parameter divider ∉ ofTokens tokens

def unfinished? (line : Line) : Option Parameter :=
  line.findSome? Item.unfinished?

def operands (line : Line) : List Token :=
  line.filterMap Item.operand?

def last? (line : Line) (parameter : Parameter) : Option Text :=
  (line.filterMap Item.setting?).reverse.lookup parameter

def integer (line : Line) (parameter : Parameter) : Option Int :=
  (line.last? parameter).bind integer?

def misread? (line : Line) (parameter : Parameter) : Option (Parameter × Text) :=
  match line.last? parameter with
  | some text => if (integer? text).isNone then some (parameter, text) else none
  | none => none

def firstMisread? (line : Line) : Option (Parameter × Text) :=
  [Parameter.passes, .memory, .lanes, .threads].findSome? line.misread?

def modeLetters : List Token := ["r", "g", "b"]

def mode (line : Line) : Mode :=
  if Text.ofString "b" ∈ line.operands then .benchmark
  else if line.operands.getLast? = some (Text.ofString "g") then .generate
  else .run

def parameters (line : Line) (password : Option Bytes) : Parameters :=
  .ofGiven (some ((line.last? .variant).getD "i")) line.integer password line.mode

end Line

theorem wrap_default (value? : Option Int) (default : Int) (wrap : Int → Nat) :
    value?.elim (wrap default) wrap = wrap (value?.getD default) := by
  cases value? <;> rfl

theorem Parameters.ofGiven_eq (tag : Option Text) (number? : Parameter → Option Int)
    (password : Option Bytes) (mode : Mode) :
    ofGiven tag number? password mode =
      { tag
        passes := (number? .passes).elim 3 wrapPasses
        memory := (number? .memory).elim (twoTo 12) wrapMemory
        lanes := (number? .lanes).elim 4 wrapLanes
        threads := (number? .threads).elim 4 wrapThreads
        password, mode } := by
  simp only [ofGiven, Parameters.mk.injEq, true_and, and_true]
  exact ⟨(wrap_default _ 3 wrapPasses).symm, (wrap_default _ 12 wrapMemory).symm,
    (wrap_default _ 4 wrapLanes).symm, (wrap_default _ 4 wrapThreads).symm⟩

namespace Parameter

theorem short_runes (parameter : Parameter) :
    ∃ letter, Text.ofString parameter.short = [.scalar '-', .scalar letter] ∧
      letter ≠ '-' ∧ letter ≠ '=' := by
  cases parameter <;> exact ⟨_, rfl, by decide, by decide⟩

theorem long_runes (parameter : Parameter) :
    ∃ name, Text.ofString parameter.long = .scalar '-' :: .scalar '-' :: name ∧
      name ≠ [] ∧ Text.Rune.scalar '=' ∉ name := by
  cases parameter <;> exact ⟨_, rfl, by decide, by decide⟩

theorem eq_of_ofName? {token : Token} {parameter : Parameter}
    (named : ofName? token = some parameter) :
    token = Text.ofString parameter.short ∨ token = Text.ofString parameter.long := by
  have found := List.find?_some named
  simpa only [Parameter.named, Bool.or_eq_true, decide_eq_true_eq] using found

theorem ofName?_attach (parameter : Parameter) (value : Text) :
    ofName? (parameter.attach value) = none := by
  by_contra named
  obtain ⟨other, named⟩ := Option.ne_none_iff_exists'.mp named
  have marked : Text.Rune.scalar '=' ∈ parameter.attach value := by
    simp [attach, equalsSign, Text.ofString]
  rcases eq_of_ofName? named with same | same <;> rw [same] at marked
  · obtain ⟨letter, short, -, notEquals⟩ := other.short_runes
    simp [short, notEquals.symm] at marked
  · obtain ⟨name, long, -, unmarked⟩ := other.long_runes
    simp [long, unmarked] at marked

theorem eq_of_ofShort? {token : Token} {parameter : Parameter}
    (named : ofShort? token = some parameter) : token = Text.ofString parameter.short := by
  simpa only [decide_eq_true_eq] using List.find?_some named

theorem ofShort?_short (parameter : Parameter) :
    ofShort? (Text.ofString parameter.short) = some parameter := by
  cases parameter <;> rfl

end Parameter

namespace Line

theorem ofTokens_cons {token : Token} (nameless : Parameter.ofName? token = none) (rest : List Token) :
    ofTokens (token :: rest) = .ofToken token :: ofTokens rest := by
  cases rest <;> simp only [ofTokens, nameless]

theorem ofTokens_pair {token : Token} {parameter : Parameter}
    (named : Parameter.ofName? token = some parameter) (value : Token) (rest : List Token) :
    ofTokens (token :: value :: rest) = .setting parameter value :: ofTokens rest := by
  rw [ofTokens, named]

end Line

end Argon2Workbench.CommandLine
