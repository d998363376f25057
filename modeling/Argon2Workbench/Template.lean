import Argon2Workbench.Buffer
import Argon2Workbench.Json.Display
import Argon2Workbench.Range
import Argon2Workbench.Template.Figure

namespace Argon2Workbench.Template

open Text (Rune)

inductive Error where
  | tooFewArguments
  | tooManyArguments
  | incomplete
  | incompleteKey
  | noMembers
  | missing (key : Text)
  | keyOfList
  | unsupported (letter : Rune) (place : Nat)
  | notANumber (letter : Char) (kind : String)
  | notAnInteger (letter : Char) (kind : String)
  | notReal (kind : String)
  | notACharacter
  | beyondCharacters
  | sizeNotInteger
  | widthTooBig
  | precisionTooBig
  | suppliedWidthTooBig
  | suppliedPrecisionTooBig
  | tooManyDigits
  | noMemory
  | conversion (error : Binary64.ConversionError)
  | digits (error : Numeral.DigitsError)
deriving DecidableEq, Repr

namespace Error

def message : Error → Text
  | tooFewArguments => "not enough arguments for format string"
  | tooManyArguments => "not all arguments converted during string formatting"
  | incomplete => "incomplete format"
  | incompleteKey => "incomplete format key"
  | noMembers => "format requires a mapping"
  | missing key => key.quoted
  | keyOfList => "list indices must be integers or slices, not str"
  | unsupported letter place =>
      let code := letter.code
      let shown := if 31 ≤ code && code < 127 then letter else .scalar '?'
      let digits := String.ofList (Nat.toDigits 16 code)
      Text.ofString "unsupported format character '" ++ [shown] ++
        Text.ofString s!"' (0x{digits}) at index {place}"
  | notANumber letter kind => s!"%{letter} format: a real number is required, not {kind}"
  | notAnInteger letter kind => s!"%{letter} format: an integer is required, not {kind}"
  | notReal kind => s!"must be real number, not {kind}"
  | notACharacter => "%c requires int or char"
  | beyondCharacters => "%c arg not in range(0x110000)"
  | sizeNotInteger => "* wants int"
  | widthTooBig => "width too big"
  | precisionTooBig => "precision too big"
  | suppliedWidthTooBig => "Python int too large to convert to C ssize_t"
  | suppliedPrecisionTooBig => "Python int too large to convert to C int"
  | tooManyDigits => "precision too large"
  | noMemory => []
  | conversion error => error.message
  | digits error => error.message

end Error

inductive Arguments where
  | row (values : List Json)
  | single (value : Json)

structure Supply where
  keyed : Option Json
  waiting : List Json

def Arguments.supply : Arguments → Supply
  | row values => { keyed := none, waiting := values }
  | single value =>
      let keyed := match value with
        | .object _ | .array _ => some value
        | _ => none
      { keyed, waiting := [value] }

namespace Supply

def next (supply : Supply) : Except Error (Json × Supply) :=
  match supply.waiting with
  | [] => .error .tooFewArguments
  | value :: waiting => .ok (value, { supply with waiting })

/-- With a key, the next value is the member of that name. -/
def select (supply : Supply) : Key → Except Error Supply
  | .absent => .ok supply
  | key => match supply.keyed, key with
      | none, _ => .error .noMembers
      | some _, .unclosed => .error .incompleteKey
      | some (.object members), .named name =>
          match members.lookup name with
          | some value => .ok { supply with waiting := [value] }
          | none => .error (.missing name)
      | some _, _ => .error .keyOfList

/-- A size that is supplied has to be an integer. -/
def nextSize (supply : Supply) : Except Error (Int × Supply) := do
  match ← supply.next with
  | (.integer value, supply) => return (value, supply)
  | (.boolean value, supply) => return (if value then 1 else 0, supply)
  | _ => throw .sizeNotInteger

/-- A width. One below zero asks for a field that is filled at the right; the lowest has no
positive counterpart and asks for nothing. -/
def width (supply : Supply) (flags : Flags) :
    Size → Except Error (Flags × Nat × Supply)
  | .absent => .ok (flags, 0, supply)
  | .given value =>
      if twoTo 63 ≤ value then .error .widthTooBig else .ok (flags, value, supply)
  | .supplied => do
      let (value, supply) ← supply.nextSize
      if !WordType.signed.holds 64 value then throw .suppliedWidthTooBig
      if value = -(twoTo 63 : Int) then return ({ flags with left := true }, 0, supply)
      else if value < 0 then return ({ flags with left := true }, value.natAbs, supply)
      else return (flags, value.toNat, supply)

/-- A precision. One below zero counts as zero. -/
def precision (supply : Supply) : Size → Except Error (Option Nat × Supply)
  | .absent => .ok (none, supply)
  | .given value =>
      if twoTo 31 ≤ value then .error .precisionTooBig else .ok (some value, supply)
  | .supplied => do
      let (value, supply) ← supply.nextSize
      if !WordType.signed.holds 32 value then throw .suppliedPrecisionTooBig
      return (some value.toNat, supply)

end Supply

inductive Form where
  | text (render : Json → Text)
  | integer (base : Nat) (upper : Bool)
  | real (style : Decimal.Style) (upper : Bool)
  | character

def Form.ofLetter? : Char → Option Form
  | 's' => some (.text Json.display)
  | 'r' => some (.text Json.quotedDisplay)
  | 'a' => some (.text Json.asciiDisplay)
  | 'd' | 'i' | 'u' => some (.integer 10 false)
  | 'o' => some (.integer 8 false)
  | 'x' => some (.integer 16 false)
  | 'X' => some (.integer 16 true)
  | 'f' => some (.real .fixed false)
  | 'F' => some (.real .fixed true)
  | 'e' => some (.real .scientific false)
  | 'E' => some (.real .scientific true)
  | 'g' => some (.real .general false)
  | 'G' => some (.real .general true)
  | 'c' => some .character
  | _ => none

/-- The integer of a value. Only in base ten a real number is cut down to its integer
part. -/
def integerOf (letter : Char) (base : Nat) : Json → Except Error Int
  | .integer value => .ok value
  | .boolean value => .ok (if value then 1 else 0)
  | .real value =>
      if base = 10 then value.truncate.mapError .conversion
      else .error (.notAnInteger letter (Json.real value).kindName)
  | other =>
      if base = 10 then .error (.notANumber letter other.kindName)
      else .error (.notAnInteger letter other.kindName)

def realOf : Json → Except Error Binary64
  | .integer value => (Binary64.ofInt value).mapError .conversion
  | .boolean value => .ok (if value then .one else .zero)
  | .real value => .ok value
  | other => .error (.notReal other.kindName)

def characterOf : Json → Except Error Text
  | .string [rune] => .ok [rune]
  | .integer value =>
      if 0 ≤ value && value < 0x110000 then .ok (Text.ofUnits (Text.unitsOf value.toNat))
      else .error .beyondCharacters
  | .boolean value => .ok [.scalar (if value then '\x01' else '\x00')]
  | _ => .error .notACharacter

inductive Content where
  | text (runes : Text)
  | integer (base : Nat) (marked upper : Bool) (precision : Nat) (value : Int)
  | real (style : Decimal.Style) (kept upper : Bool) (precision : Nat) (value : Binary64)

/-- More digits than this an integer cannot be asked to have. -/
def digitLimit : Nat := 2147483644

/-- The content that an argument makes. A precision cuts a text short. -/
def Form.content (form : Form) (letter : Char) (flags : Flags) (precision : Option Nat)
    (value : Json) : Except Error Content :=
  match form with
  | .text render =>
      let text := render value
      if value.isWritable then .ok (.text (text.take (precision.getD text.length)))
      else .error (.digits {})
  | .integer base upper => do
      let number ← integerOf letter base value
      if digitLimit < precision.getD 0 then throw .tooManyDigits
      if base = 10 && !Numeral.isWritable number then throw (.digits {})
      return .integer base flags.alternate upper (precision.getD 0) number
  | .real style upper =>
      return .real style flags.alternate upper (precision.getD Figure.defaultPrecision)
        (← realOf value)
  | .character => return .text (← characterOf value)

/-- A part of what a template becomes. Every part is settled before any is written out. -/
inductive Part where
  | plain (rune : Rune)
  | field (flags : Flags) (width : Nat) (content : Content)

def Part.text : Part → Text
  | .plain rune => [rune]
  | .field flags width content => match content with
      | .text runes => flags.field width runes
      | .integer base marked upper precision value =>
          flags.figure width ((Figure.ofInt base marked precision value).inCase upper)
      | .real style kept upper precision value =>
          flags.figure width ((Figure.ofReal style kept precision value).inCase upper)

/-- The field that a directive asks for, and the values that it leaves. -/
def Directive.apply [Machine] (directive : Directive) (place : Nat) (supply : Supply) :
    Except Error (Part × Supply) := do
  let supply ← supply.select directive.key
  let (flags, width, supply) ← supply.width directive.flags directive.width
  let (precision, supply) ← supply.precision directive.precision
  let some letter := directive.letter | throw .incomplete
  let (value, supply) ← supply.next
  let .scalar character := letter | throw (.unsupported letter place)
  let some form := Form.ofLetter? character | throw (.unsupported letter place)
  let content ← form.content character flags precision value
  if Machine.memory ≤ width then throw .noMemory
  return (.field flags width content, supply)

/-- What the pieces become, in their order. A row of values has to be used up. -/
def parts [Machine] : List Piece → Supply → Except Error (List Part)
  | [], supply =>
      if supply.keyed.isNone && !supply.waiting.isEmpty then .error .tooManyArguments else .ok []
  | .plain rune :: rest, supply => return .plain rune :: (← parts rest supply)
  | .directive directive place :: rest, supply => do
      let (part, supply) ← directive.apply place supply
      return part :: (← parts rest supply)

def fill [Machine] (template : Text) (arguments : Arguments) : Except Error Text :=
  (parts (pieces template) arguments.supply).map (List.flatMap Part.text)

end Argon2Workbench.Template
