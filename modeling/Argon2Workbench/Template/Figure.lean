import Argon2Workbench.Number.Decimal
import Argon2Workbench.Template.Directive

namespace Argon2Workbench.Template

/-- A number in print: its sign, the mark of its base, and its digits. -/
structure Figure where
  negative : Bool := false
  mark : List Char := []
  digits : List Char
deriving DecidableEq, Repr

namespace Figure

def inCase (figure : Figure) (upper : Bool) : Figure :=
  if upper then
    { figure with mark := figure.mark.map Char.toUpper, digits := figure.digits.map Char.toUpper }
  else figure

def markOf (base : Nat) : List Char :=
  if base = 8 then ['0', 'o'] else if base = 16 then ['0', 'x'] else []

/-- An integer in a base, with as many digits as the precision asks for at the least. -/
def ofInt (base : Nat) (marked : Bool) (precision : Nat) (value : Int) : Figure :=
  let digits := Nat.toDigits base value.natAbs
  { negative := value < 0
    mark := if marked then markOf base else []
    digits := List.replicate (precision - digits.length) '0' ++ digits }

def defaultPrecision : Nat := 6

def ofReal (style : Decimal.Style) (kept : Bool) (precision : Nat) : Binary64 → Figure
  | .finite negative magnitude => { negative, digits := style.digits kept precision magnitude }
  | .infinite negative => { negative, digits := "inf".toList }
  | .nan => { digits := "nan".toList }

end Figure

namespace Flags

def sign (flags : Flags) (negative : Bool) : List Char :=
  if negative then ['-']
  else if flags.plus then ['+']
  else if flags.blank then [' ']
  else []

def field (flags : Flags) (width : Nat) (text : Text) : Text :=
  let filling := List.replicate (width - text.length) (.scalar ' ')
  if flags.left then text ++ filling else filling ++ text

/-- A number in a field. Zeros that fill it stand between the mark and the digits, and only
at the left. -/
def figure (flags : Flags) (width : Nat) (figure : Figure) : Text :=
  let head := flags.sign figure.negative ++ figure.mark
  let zeros := if flags.zero && !flags.left
    then List.replicate (width - (head.length + figure.digits.length)) '0' else []
  flags.field width ((head ++ zeros ++ figure.digits).map .scalar)

end Flags

end Argon2Workbench.Template
