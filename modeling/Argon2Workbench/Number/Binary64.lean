import Argon2Workbench.Number.Power

/-! Binary64 numbers as exact values, with every operation rounded once to nearest,
ties to even.

Each finite number is a whole multiple of `2 ^ -1074`, the least positive one. A
magnitude is measured in that unit, so sums, products and quotients are exact ratios of
natural numbers up to the one rounding at their end.
-/

namespace Argon2Workbench

/-- The quotient rounded to the nearest natural number, a half to the even neighbour. -/
def halfEven (numerator denominator : Nat) : Nat :=
  let quotient := numerator / denominator
  let twice := 2 * (numerator % denominator)
  if twice < denominator || (twice == denominator && quotient % 2 == 0) then quotient
  else quotient + 1

/-- `significand * 2 ^ exponent` units. The significand has at most 53 bits, and all of
them unless the exponent is zero. -/
structure Magnitude where
  significand : Nat
  exponent : Nat
deriving DecidableEq, Repr

namespace Magnitude

def units (magnitude : Magnitude) : Nat :=
  magnitude.significand * twoTo magnitude.exponent

/-- The nearest magnitude to a ratio of units, for an exponent without bound. -/
def nearest (numerator denominator : Nat) : Magnitude :=
  let exponent := Nat.log2 (numerator / denominator) - 52
  let significand := halfEven numerator (denominator * twoTo exponent)
  if significand = twoTo 53 then ⟨twoTo 52, exponent + 1⟩ else ⟨significand, exponent⟩

def maxExponent : Nat := 2045

end Magnitude

def unitsPerOne : Nat := twoTo 1074

inductive Binary64 where
  | finite (negative : Bool) (magnitude : Magnitude)
  | infinite (negative : Bool)
  | nan
deriving DecidableEq, Repr

namespace Binary64

inductive ConversionError where
  | integerTooLarge
  | quotientTooLarge
  | divisionByZero
  | nanToInteger
  | infinityToInteger
deriving DecidableEq, Repr

def ConversionError.message : ConversionError → String
  | integerTooLarge => "int too large to convert to float"
  | quotientTooLarge => "integer division result too large for a float"
  | divisionByZero => "division by zero"
  | nanToInteger => "cannot convert float NaN to integer"
  | infinityToInteger => "cannot convert float infinity to integer"

/-- Rounds a ratio of units. What lies beyond the largest number becomes infinite. -/
def ofUnits (negative : Bool) (numerator denominator : Nat) : Binary64 :=
  let magnitude := Magnitude.nearest numerator denominator
  if Magnitude.maxExponent < magnitude.exponent then infinite negative
  else finite negative magnitude

def ofRatio (negative : Bool) (numerator denominator : Nat) : Binary64 :=
  ofUnits negative (numerator * unitsPerOne) denominator

def zero : Binary64 := finite false ⟨0, 0⟩

def one : Binary64 := ofRatio false 1 1

instance : Inhabited Binary64 := ⟨zero⟩

def bounded (error : ConversionError) : Binary64 → Except ConversionError Binary64
  | infinite _ => .error error
  | rounded => .ok rounded

theorem bounded_finite (error : ConversionError) (negative : Bool) (magnitude : Magnitude) :
    bounded error (finite negative magnitude) = .ok (finite negative magnitude) :=
  rfl

def ofInt (value : Int) : Except ConversionError Binary64 :=
  bounded .integerTooLarge (ofRatio (value < 0) value.natAbs 1)

/-- The quotient of two integers, rounded once from its exact value. -/
def quotient (numerator denominator : Int) : Except ConversionError Binary64 :=
  if denominator = 0 then .error .divisionByZero
  else bounded .quotientTooLarge <|
    ofRatio ((numerator < 0) != (denominator < 0)) numerator.natAbs denominator.natAbs

def truncate : Binary64 → Except ConversionError Int
  | finite negative magnitude =>
      let whole : Int := (magnitude.units / unitsPerOne : Nat)
      .ok (if negative then -whole else whole)
  | infinite _ => .error .infinityToInteger
  | nan => .error .nanToInteger

def floor : Binary64 → Except ConversionError Int
  | finite negative magnitude =>
      let below : Int := (magnitude.units / unitsPerOne : Nat)
      if !negative then .ok below
      else if magnitude.units % unitsPerOne = 0 then .ok (-below)
      else .ok (-below - 1)
  | infinite _ => .error .infinityToInteger
  | nan => .error .nanToInteger

def neg : Binary64 → Binary64
  | finite negative magnitude => finite (!negative) magnitude
  | infinite negative => infinite (!negative)
  | nan => nan

def signedUnits (negative : Bool) (magnitude : Magnitude) : Int :=
  if negative then -(magnitude.units : Int) else magnitude.units

/-- The sum. An exact zero is negative only if both terms are. -/
def add : Binary64 → Binary64 → Binary64
  | finite negative₁ magnitude₁, finite negative₂ magnitude₂ =>
      let sum := signedUnits negative₁ magnitude₁ + signedUnits negative₂ magnitude₂
      if sum = 0 then finite (negative₁ && negative₂) ⟨0, 0⟩
      else ofUnits (sum < 0) sum.natAbs 1
  | finite .., infinite negative => infinite negative
  | infinite negative, finite .. => infinite negative
  | infinite negative₁, infinite negative₂ => if negative₁ = negative₂ then infinite negative₁ else nan
  | nan, _ => nan
  | _, nan => nan

def sub (left right : Binary64) : Binary64 :=
  left.add right.neg

def mul : Binary64 → Binary64 → Binary64
  | finite negative₁ magnitude₁, finite negative₂ magnitude₂ =>
      ofUnits (negative₁ != negative₂) (magnitude₁.units * magnitude₂.units) unitsPerOne
  | finite negative₁ magnitude, infinite negative₂ =>
      if magnitude.units = 0 then nan else infinite (negative₁ != negative₂)
  | infinite negative₁, finite negative₂ magnitude =>
      if magnitude.units = 0 then nan else infinite (negative₁ != negative₂)
  | infinite negative₁, infinite negative₂ => infinite (negative₁ != negative₂)
  | nan, _ => nan
  | _, nan => nan

def scaleDown (places : Nat) : Binary64 → Binary64
  | finite negative magnitude => ofUnits negative magnitude.units (twoTo places)
  | infinite negative => infinite negative
  | nan => nan

def isZero : Binary64 → Bool
  | finite _ magnitude => magnitude.units == 0
  | _ => false

/-- Whether the number is zero or below. It is false of what is no number. -/
def notPositive : Binary64 → Bool
  | finite negative magnitude => negative || magnitude.units == 0
  | infinite negative => negative
  | nan => false

end Binary64

end Argon2Workbench
