import Argon2Workbench.Json.Display
import Argon2Workbench.Range

namespace Argon2Workbench.Log

/-- A date of the proleptic Gregorian calendar. -/
structure Date where
  year : Int
  month : Nat
  day : Nat

/-- The date of a day counted from the first of January 1970. Years are taken to begin in
March, so that the leap day is their last. -/
def Date.ofDays (days : Int) : Date :=
  let shifted := days + 719468
  let era := shifted.fdiv 146097
  let dayOfEra := (shifted.fmod 146097).toNat
  let yearOfEra :=
    (dayOfEra - dayOfEra / 1460 + dayOfEra / 36524 - dayOfEra / 146096) / 365
  let dayOfYear := dayOfEra - (365 * yearOfEra + yearOfEra / 4 - yearOfEra / 100)
  let monthFromMarch := (5 * dayOfYear + 2) / 153
  let month := if monthFromMarch < 10 then monthFromMarch + 3 else monthFromMarch - 9
  { year := era * 400 + yearOfEra + (if month ≤ 2 then 1 else 0), month
    day := dayOfYear - (153 * monthFromMarch + 2) / 5 + 1 }

/-- A moment as seconds since the epoch and milliseconds, in universal time. Nothing holds
the milliseconds to a second, so they may be negative or many. -/
structure Moment where
  seconds : Int := 0
  milliseconds : Int := 0
deriving DecidableEq, Repr

namespace Moment

def date (moment : Moment) : Date :=
  .ofDays (moment.seconds.fdiv 86400)

def twoDigits (value : Nat) : String :=
  String.ofList (Decimal.padded 2 value)

def stamp (moment : Moment) : String :=
  let date := moment.date
  let second := (moment.seconds.fmod 86400).toNat
  let clock := s!"{twoDigits (second / 3600)}:{twoDigits (second / 60 % 60)}:{twoDigits (second % 60)}"
  let milliseconds := String.ofList (Decimal.paddedInt 3 moment.milliseconds)
  s!"{date.year}-{twoDigits date.month}-{twoDigits date.day} {clock},{milliseconds}"

inductive Error where
  | notANumber
  /-- Sixty-four bits do not hold the seconds. -/
  | beyondSeconds
  /-- Thirty-two bits do not hold the years since 1900, … -/
  | beyondYears
  /-- … or not the year itself. -/
  | beyondYear
  | kind (name : String)
deriving DecidableEq, Repr

def Error.message : Error → String
  | notANumber => "Invalid value NaN (not a number)"
  | beyondSeconds => "timestamp out of range for platform time_t"
  | beyondYears => "[Errno 75] Value too large for defined data type"
  | beyondYear => "signed integer is greater than maximum"
  | kind name => s!"'{name}' object cannot be interpreted as an integer"

/-- Whole seconds. A fraction is rounded down. -/
def wholeSeconds : Json → Except Error Int
  | .integer value => .ok value
  | .boolean value => .ok (if value then 1 else 0)
  | .real value => value.floor.mapError fun
      | .nanToInteger => .notANumber
      | _ => .beyondSeconds
  | other => .error (.kind other.kindName)

def ofSeconds (seconds : Json) : Except Error Moment := do
  let moment : Moment := { seconds := ← wholeSeconds seconds }
  if !WordType.signed.holds 64 moment.seconds then throw .beyondSeconds
  if !WordType.signed.holds 32 (moment.date.year - 1900) then throw .beyondYears
  if !WordType.signed.holds 32 moment.date.year then throw .beyondYear
  return moment

end Moment

end Argon2Workbench.Log
