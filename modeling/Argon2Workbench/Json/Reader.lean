import Argon2Workbench.Json.Value
import Argon2Workbench.Number.Numeral

namespace Argon2Workbench.Json

def skipBlanks (characters : List Char) : List Char :=
  characters.dropWhile fun character =>
    character = ' ' || character = '\n' || character = '\r' || character = '\t'

def hexValue? (digit : Char) : Option Nat :=
  if 'A' ≤ digit && digit ≤ 'F' then some (digit.toNat - 55) else Bytes.hexValue? digit

def unitOf? (a b c d : Char) : Option Text.CodeUnit := do
  let a ← hexValue? a
  let b ← hexValue? b
  let c ← hexValue? c
  let d ← hexValue? d
  return ((a * 16 + b) * 16 + c) * 16 + d

def escapedBy? : Char → Option Text.CodeUnit
  | '"' => some 0x22
  | '\\' => some 0x5c
  | '/' => some 0x2f
  | 'b' => some 0x08
  | 'f' => some 0x0c
  | 'n' => some 0x0a
  | 'r' => some 0x0d
  | 't' => some 0x09
  | _ => none

/-- The units of a string up to its closing quote, and what follows the quote. -/
def readUnits : List Char → Option (List Text.CodeUnit × List Char)
  | [] => none
  | '"' :: rest => some ([], rest)
  | '\\' :: 'u' :: a :: b :: c :: d :: rest => do
      let unit ← unitOf? a b c d
      let (units, remaining) ← readUnits rest
      return (unit :: units, remaining)
  | '\\' :: escape :: rest => do
      let unit ← escapedBy? escape
      let (units, remaining) ← readUnits rest
      return (unit :: units, remaining)
  | character :: rest =>
      if character = '\\' || character < ' ' then none
      else do
        let (units, remaining) ← readUnits rest
        return (Text.Rune.units (.scalar character) ++ units, remaining)

def readText (characters : List Char) : Option (Text × List Char) := do
  let (units, rest) ← readUnits characters
  return (Text.ofUnits units, rest)

def asciiDigit? (character : Char) : Option Nat :=
  if '0' ≤ character && character ≤ '9' then some (character.toNat - 48) else none

def readDigits : List Char → List Nat × List Char
  | [] => ([], [])
  | character :: rest =>
      match asciiDigit? character with
      | none => ([], character :: rest)
      | some digit =>
          let (digits, remaining) := readDigits rest
          (digit :: digits, remaining)

def readExponent : List Char → Option (Option Int × List Char)
  | letter :: rest =>
      if letter = 'e' || letter = 'E' then
        let (negative, unsigned) := Numeral.signOf rest
        match readDigits unsigned with
        | ([], _) => none
        | (digits, remaining) =>
            let value : Int := Numeral.valueOf digits
            some (some (if negative then -value else value), remaining)
      else some (none, letter :: rest)
  | [] => some (none, [])

def readUnsigned (negative : Bool) (characters : List Char) : Option (Json × List Char) :=
  match readDigits characters with
  | ([], _) => none
  | (whole, afterWhole) => do
      let (fraction, afterFraction) ← match afterWhole with
        | '.' :: rest => match readDigits rest with
          | ([], _) => none
          | (fraction, remaining) => some (some fraction, remaining)
        | rest => some (none, rest)
      let (exponent, rest) ← readExponent afterFraction
      let digits := Numeral.valueOf (whole ++ fraction.getD [])
      if fraction.isNone && exponent.isNone then
        return (integer (if negative then -digits else digits), rest)
      else
        let exponent := exponent.getD 0 - (fraction.getD []).length
        return (real (Numeral.scaled negative digits exponent), rest)

def readNumber : List Char → Option (Json × List Char)
  | '-' :: rest => readUnsigned true rest
  | rest => readUnsigned false rest

def afterWord (word : String) (characters : List Char) : Option (List Char) :=
  if word.toList.isPrefixOf characters then some (characters.drop word.toList.length) else none

mutual

/-- Reads a value at the start of a text. Every step into a value takes one unit of fuel,
of which the length of the text is enough. -/
def readValue : (fuel : Nat) → List Char → Option (Json × List Char)
  | 0, _ => none
  | fuel + 1, characters =>
      match skipBlanks characters with
      | '"' :: rest => do
          let (text, remaining) ← readText rest
          return (string text, remaining)
      | '[' :: rest =>
          match skipBlanks rest with
          | ']' :: remaining => some (array [], remaining)
          | _ => do
              let (elements, remaining) ← readElements fuel rest
              return (array elements, remaining)
      | '{' :: rest =>
          match skipBlanks rest with
          | '}' :: remaining => some (object [], remaining)
          | _ => do
              let (members, remaining) ← readMembers fuel rest
              return (object members, remaining)
      | 'n' :: rest => (afterWord "ull" rest).map (null, ·)
      | 't' :: rest => (afterWord "rue" rest).map (boolean true, ·)
      | 'f' :: rest => (afterWord "alse" rest).map (boolean false, ·)
      | 'N' :: rest => (afterWord "aN" rest).map (real .nan, ·)
      | 'I' :: rest => (afterWord "nfinity" rest).map (real (.infinite false), ·)
      | '-' :: 'I' :: rest => (afterWord "nfinity" rest).map (real (.infinite true), ·)
      | rest => readNumber rest

def readElements : (fuel : Nat) → List Char → Option (List Json × List Char)
  | 0, _ => none
  | fuel + 1, characters => do
      let (first, rest) ← readValue fuel characters
      match skipBlanks rest with
      | ']' :: remaining => return ([first], remaining)
      | ',' :: rest => do
          let (elements, remaining) ← readElements fuel rest
          return (first :: elements, remaining)
      | _ => none

def readMembers : (fuel : Nat) → List Char → Option (List (Text × Json) × List Char)
  | 0, _ => none
  | fuel + 1, characters =>
      match skipBlanks characters with
      | '"' :: rest => do
          let (name, rest) ← readText rest
          match skipBlanks rest with
          | ':' :: rest => do
              let (value, rest) ← readValue fuel rest
              match skipBlanks rest with
              | '}' :: remaining => return ([(name, value)], remaining)
              | ',' :: rest => do
                  let (members, remaining) ← readMembers fuel rest
                  return ((name, value) :: members, remaining)
              | _ => none
          | _ => none
      | _ => none

end

def read? (text : String) : Option Json :=
  let characters := text.toList
  match readValue (characters.length + 1) characters with
  | some (value, rest) => if (skipBlanks rest).isEmpty then some value else none
  | none => none

end Argon2Workbench.Json
