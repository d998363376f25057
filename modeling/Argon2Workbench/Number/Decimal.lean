import Argon2Workbench.Number.Binary64

namespace Argon2Workbench.Decimal

def padded (width value : Nat) : List Char :=
  let digits := Nat.toDigits 10 value
  List.replicate (width - digits.length) '0' ++ digits

/-- Digits padded in the same way, where a sign counts as one of them. -/
def paddedInt (width : Nat) (value : Int) : List Char :=
  if value < 0 then '-' :: padded (width - 1) value.natAbs else padded width value.natAbs

/-- A whole part and the digits behind a point. Without such digits there is no point
either, unless it is `kept`. -/
def pointed (kept : Bool) (whole fraction : List Char) : List Char :=
  if fraction.isEmpty && !kept then whole else whole ++ '.' :: fraction

def fixedDigits (kept : Bool) (places count : Nat) : List Char :=
  let fraction := if places = 0 then [] else padded places (count % tenTo places)
  pointed kept (Nat.toDigits 10 (count / tenTo places)) fraction

/-- The magnitude rounded to `places` decimals, a half to the even neighbour. -/
def fixedMagnitude (kept : Bool) (places : Nat) (magnitude : Magnitude) : List Char :=
  fixedDigits kept places (halfEven (magnitude.units * tenTo places) unitsPerOne)

def signed (negative : Bool) (digits : List Char) : List Char :=
  if negative then '-' :: digits else digits

/-- The exact value rounded to `places` decimals. The sign stays where the value rounds to
zero. -/
def fixed (places : Nat) : Binary64 → String
  | .finite negative magnitude =>
      String.ofList (signed negative (fixedMagnitude false places magnitude))
  | .infinite negative => if negative then "-inf" else "inf"
  | .nan => "nan"

/-- The number `digits * 10 ^ (point - count)`, where `count` is the number of digits. -/
structure Significant where
  digits : Nat
  count : Nat
  point : Int

/-- `digits * 10 ^ exponent` as a ratio of units. -/
def ratioOfScaled (digits : Nat) (exponent : Int) : Nat × Nat :=
  if 0 ≤ exponent then (digits * tenTo exponent.toNat * unitsPerOne, 1)
  else (digits * unitsPerOne, tenTo (-exponent).toNat)

/-- The place of the decimal point: the number lies in `[10 ^ (p - 1), 10 ^ p)`. -/
def pointOf (magnitude : Magnitude) : Int :=
  ((Nat.toDigits 10 (magnitude.units * tenTo 400 / unitsPerOne)).length : Int) - 400

/-- The magnitude as a ratio in which `10 ^ exponent` counts as one. -/
def ratioOf (magnitude : Magnitude) (exponent : Int) : Nat × Nat :=
  if 0 ≤ exponent then (magnitude.units, unitsPerOne * tenTo exponent.toNat)
  else (magnitude.units * tenTo (-exponent).toNat, unitsPerOne)

/-- The magnitude rounded to `count` digits, a half to the even neighbour. Zero has its
point behind the first of them. -/
def roundedTo (count : Nat) (magnitude : Magnitude) : Significant :=
  if magnitude.units = 0 then ⟨0, count, 1⟩
  else
    let point := pointOf magnitude
    let (numerator, denominator) := ratioOf magnitude (point - count)
    let digits := halfEven numerator denominator
    if digits = tenTo count then ⟨tenTo (count - 1), count, point + 1⟩
    else ⟨digits, count, point⟩

/-- The best decimal of `count` digits that reads back as the magnitude, if there is
one. Of the two neighbours on that grid the nearer is taken, and of two equally near
the even one. -/
def withCount (magnitude : Magnitude) (point : Int) (count : Nat) : Option Significant :=
  let exponent := point - count
  let (numerator, denominator) := ratioOf magnitude exponent
  let readsBack := fun digits =>
    let (top, bottom) := ratioOfScaled digits exponent
    Magnitude.nearest top bottom == magnitude
  let best := halfEven numerator denominator
  let below := numerator / denominator
  let other := if best = below then below + 1 else below
  match [best, other].find? readsBack with
  | none => none
  | some digits =>
      if digits = tenTo count then some ⟨1, 1, point + 1⟩ else some ⟨digits, count, point⟩

/-- Seventeen digits always read back. -/
def shortest (magnitude : Magnitude) : Significant :=
  let point := pointOf magnitude
  ((List.range' 1 17).findSome? (withCount magnitude point)).getD ⟨0, 1, 1⟩

structure Layout where
  /-- The point is written out while its place is above `leastPoint` … -/
  leastPoint : Int
  /-- … and at most `greatestPoint`. -/
  greatestPoint : Int
  exponentWidth : Nat

def exponentDigits (layout : Layout) (exponent : Int) : List Char :=
  (if exponent < 0 then '-' else '+') :: padded layout.exponentWidth exponent.natAbs

def positional (digits : List Char) (point : Int) : List Char :=
  if point ≤ 0 then '0' :: '.' :: List.replicate (-point).toNat '0' ++ digits
  else if digits.length ≤ point.toNat then
    digits ++ List.replicate (point.toNat - digits.length) '0' ++ ['.', '0']
  else digits.take point.toNat ++ '.' :: digits.drop point.toNat

def scientific (layout : Layout) (digits : List Char) (point : Int) : List Char :=
  let mantissa := match digits with
    | first :: second :: rest => first :: '.' :: second :: rest
    | short => short
  mantissa ++ 'e' :: exponentDigits layout (point - 1)

def laidOut (layout : Layout) (number : Significant) : List Char :=
  let digits := Nat.toDigits 10 number.digits
  if layout.leastPoint < number.point && number.point ≤ layout.greatestPoint
  then positional digits number.point
  else scientific layout digits number.point

/-- Numbers are written out from `0.0001` up to sixteen whole digits. -/
def messageLayout : Layout :=
  { leastPoint := -4, greatestPoint := 16, exponentWidth := 2 }

inductive Style where
  | fixed
  | scientific
  /-- With as many digits, and with an exponent only if it is far from zero. -/
  | general
deriving DecidableEq, Repr

/-- More places, or more digits, than any magnitude has: what lies behind them is zero. -/
def exactDigits : Nat := 1100

def digitsAndPoint (count : Nat) (magnitude : Magnitude) : List Char × Int :=
  let exact := min count exactDigits
  let number := roundedTo exact magnitude
  (padded exact number.digits ++ List.replicate (count - exact) '0', number.point)

def fixedPlaces (kept : Bool) (places : Nat) (magnitude : Magnitude) : List Char :=
  let exact := min places exactDigits
  fixedMagnitude kept exact magnitude ++ List.replicate (places - exact) '0'

def scientificDigits (kept : Bool) (digits : List Char) (point : Int)
    (drop : List Char → List Char) : List Char :=
  pointed kept (digits.take 1) (drop (digits.drop 1)) ++
    'e' :: exponentDigits messageLayout (point - 1)

def positionalDigits (kept : Bool) (digits : List Char) (point : Int)
    (drop : List Char → List Char) : List Char :=
  if point ≤ 0 then
    pointed kept ['0'] (drop (List.replicate (-point).toNat '0' ++ digits))
  else pointed kept (digits.take point.toNat) (drop (digits.drop point.toNat))

def withoutZeros (fraction : List Char) : List Char :=
  (fraction.reverse.dropWhile (· = '0')).reverse

/-- As many digits as are asked for. Zeros at the end are dropped, and so need not be there
in the first place, unless the point is kept. -/
def generalDigits (kept : Bool) (count : Nat) (magnitude : Magnitude) : List Char :=
  let count := if kept then count else min count exactDigits
  let (digits, point) := digitsAndPoint count magnitude
  let drop := if kept then id else withoutZeros
  if messageLayout.leastPoint < point && point ≤ count then positionalDigits kept digits point drop
  else scientificDigits kept digits point drop

def Style.digits (style : Style) (kept : Bool) (precision : Nat) (magnitude : Magnitude) :
    List Char :=
  match style with
  | .fixed => fixedPlaces kept precision magnitude
  | .scientific =>
      let (digits, point) := digitsAndPoint (precision + 1) magnitude
      scientificDigits kept digits point id
  | .general => generalDigits kept (max 1 precision) magnitude

/-- The fewest digits that read back, always with a point or an exponent. -/
def shortText : Binary64 → String
  | .finite negative magnitude =>
      let digits := if magnitude.units = 0 then ['0', '.', '0']
        else laidOut messageLayout (shortest magnitude)
      String.ofList (signed negative digits)
  | .infinite negative => if negative then "-inf" else "inf"
  | .nan => "nan"

end Argon2Workbench.Decimal
