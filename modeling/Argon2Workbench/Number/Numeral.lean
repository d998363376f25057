import Argon2Workbench.Number.Binary64
import Argon2Workbench.Text.Blank
import Argon2Workbench.Text.DecimalDigit

namespace Argon2Workbench.Numeral

open Text

def isMargin (character : Char) : Bool :=
  isBlank character && !isSeparator character

/-- The longest run of digits at the start, underscores between them dropped, and what
follows the run. -/
def digitRun : List Char → List Nat × List Char
  | [] => ([], [])
  | character :: rest =>
      match digitValue? character with
      | none => ([], character :: rest)
      | some digit =>
          match rest with
          | '_' :: next :: rest' =>
              if (digitValue? next).isSome then
                let (digits, remaining) := digitRun (next :: rest')
                (digit :: digits, remaining)
              else ([digit], '_' :: next :: rest')
          | rest =>
              let (digits, remaining) := digitRun rest
              (digit :: digits, remaining)

def valueOf (digits : List Nat) : Nat :=
  digits.foldl (fun value digit => 10 * value + digit) 0

def signOf : List Char → Bool × List Char
  | '-' :: rest => (true, rest)
  | '+' :: rest => (false, rest)
  | rest => (false, rest)

def digitLimit : Nat := 4300

inductive IntegerError where
  | malformed
  | tooManyDigits (count : Nat)
deriving DecidableEq, Repr

def readInteger (characters : List Char) : Except IntegerError Int :=
  let (negative, unsigned) := signOf characters
  let (digits, rest) := digitRun unsigned
  if digits.isEmpty || rest.head? = some '_' then .error .malformed
  else if digitLimit < digits.length then .error (.tooManyDigits digits.length)
  else if !rest.isEmpty then .error .malformed
  else
    let value : Int := valueOf digits
    .ok (if negative then -value else value)

def integer (characters : List Char) : Except IntegerError Int :=
  readInteger (trim isMargin characters)

structure DigitsError where
deriving DecidableEq, Repr

def DigitsError.message (_ : DigitsError) : String :=
  s!"Exceeds the limit ({digitLimit} digits) for integer string conversion; " ++
    "use sys.set_int_max_str_digits() to increase the limit"

/-- Whether an integer has no more digits than are read. -/
def isWritable (value : Int) : Bool :=
  value.natAbs < tenTo digitLimit

theorem isWritable_iff {value : Int} :
    isWritable value = true ↔ value.natAbs < tenTo digitLimit :=
  decide_eq_true_iff

def written (value : Int) : Except DigitsError String :=
  if isWritable value then .ok (toString value) else .error {}

/-- `digits * 10 ^ exponent`, rounded to binary64. Exponents far out of range are settled
by the number of digits, without the power. -/
def scaled (negative : Bool) (digits : Nat) (exponent : Int) : Binary64 :=
  if digits = 0 then .finite negative ⟨0, 0⟩
  else
    let top := (Nat.toDigits 10 digits).length + exponent
    if 400 < top then .infinite negative
    else if top < -400 then .finite negative ⟨0, 0⟩
    else if 0 ≤ exponent then .ofRatio negative (digits * tenTo exponent.toNat) 1
    else .ofRatio negative digits (tenTo (-exponent).toNat)

/-- An exponent after its `e`: nothing is left of a text that ends with it. -/
def exponentOf (characters : List Char) : Option Int :=
  let (negative, unsigned) := signOf characters
  match digitRun unsigned with
  | (digit :: digits, []) =>
      let value : Int := valueOf (digit :: digits)
      some (if negative then -value else value)
  | _ => none

def asciiLower (character : Char) : Char :=
  if 'A' ≤ character && character ≤ 'Z' then Char.ofNat (character.toNat + 32) else character

/-- A number without sign: digits with an optional point and exponent, or a name for
infinity or for what is no number. -/
def unsignedReal (negative : Bool) (characters : List Char) : Option Binary64 :=
  let name := characters.map asciiLower
  if name = "inf".toList || name = "infinity".toList then some (.infinite negative)
  else if name = "nan".toList then some .nan
  else
    let (whole, afterWhole) := digitRun characters
    let (fraction, afterFraction) := match afterWhole with
      | '.' :: rest => digitRun rest
      | rest => ([], rest)
    let digits := whole ++ fraction
    let exponent? := match afterFraction with
      | [] => some 0
      | letter :: rest => if letter = 'e' || letter = 'E' then exponentOf rest else none
    if digits.isEmpty then none
    else exponent?.map fun exponent =>
      scaled negative (valueOf digits) (exponent - fraction.length)

def real (characters : List Char) : Option Binary64 :=
  let (negative, unsigned) := signOf (trim isMargin characters)
  unsignedReal negative unsigned

end Argon2Workbench.Numeral
