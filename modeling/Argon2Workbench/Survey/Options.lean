import Argon2Workbench.CommandLine.Word
import Argon2Workbench.Measure.Grid
import Argon2Workbench.Number.Numeral

/-! The options of a survey, which is the measurement of a grid of one's own.

Long names may be cut short as long as one option is meant. All that is wrong with the
options ends the reading with the same answer, so only the request for help has a place
in an order.
-/

namespace Argon2Workbench.Survey

open CommandLine (Token divider)

inductive Name where
  | help
  | low
  | high
  | threads
deriving DecidableEq, Repr

namespace Name

def all : List Name := [help, low, high, threads]

def long : Name → String
  | help => "--help"
  | low => "--min-log-mcost"
  | high => "--max-log-mcost"
  | threads => "--threads"

def shortHelp : String := "-h"

def ofToken? (token : Token) : Option Name :=
  if token = shortHelp then some help else all.find? fun name => token = name.long

def startingWith (text : Text) : List Name :=
  all.filter fun name => text.isPrefixOf (name.long : Text)

end Name

inductive Word where
  | operand (token : Token)
  | bare (name : Name)
  | given (name : Name) (value : Text)
  /-- Letters that follow the short name for help. -/
  | helpAnd (letters : Text)
  | unknown (token : Token)
deriving DecidableEq, Repr

/-- A name cut short, with its value if one is attached. None means that several names
begin so. -/
def abbreviated? (token : Token) : Option Word :=
  let (stem, value) := (CommandLine.splitValue? token).map (fun (stem, value) => (stem, some value))
    |>.getD (token, none)
  match Name.startingWith stem with
  | [] => some (.unknown token)
  | [name] => some (value.elim (.bare name) (.given name))
  | _ => none

def inFull? (token : Token) : Option Word :=
  let whole := (Name.ofToken? token).map .bare
  let beforeEquals : Option Word := do
    let (stem, value) ← CommandLine.splitValue? token
    let name ← Name.ofToken? stem
    return if stem = Name.shortHelp then .helpAnd value else .given name value
  let behindShort : Option Word :=
    if token.take 2 = Name.shortHelp then some (.helpAnd (token.drop 2)) else none
  whole.or (beforeEquals.or behindShort)

def Word.ofToken? (token : Token) : Option Word :=
  if token.head? ≠ some (.scalar '-') || token.length = 1 then some (.operand token)
  else match inFull? token with
    | some word => some word
    | none => do
        match ← if token.take 2 = divider then abbreviated? token else some (.unknown token) with
        | .unknown token =>
            if CommandLine.isNegativeNumber token || token.contains (.scalar ' ')
            then return .operand token else return .unknown token
        | word => return word

/-- The words of a command line. The divider itself is out of place, and everything
behind it is an operand. -/
def words? (tokens : List Token) : Option (List Word) := do
  let front ← (tokens.takeWhile (· ≠ divider)).mapM Word.ofToken?
  return front ++ match tokens.dropWhile (· ≠ divider) with
    | [] => []
    | mark :: rest => .unknown mark :: rest.map .operand

/-- A word that is no operand, and the operands that directly follow it. -/
structure Segment where
  head : Word
  operands : List Token
deriving DecidableEq, Repr

/-- The operands in front, and the segments. -/
def segments (words : List Word) : List Token × List Segment :=
  words.foldr (fun word (leading, later) => match word with
    | .operand token => (token :: leading, later)
    | head => ([], ⟨head, leading⟩ :: later)) ([], [])

/-- A bound that was left without its number is none. -/
structure Options where
  low : Option Int := some Grid.minPower
  high : Option Int := some Grid.maxPower
  threads : List Int := Grid.defaultThreads
deriving DecidableEq, Repr

inductive Stop where
  | help
  | refused
deriving DecidableEq, Repr

def number (token : Token) : Except Stop Int :=
  match token.characters?.map Numeral.integer with
  | some (.ok value) => .ok value
  | _ => .error .refused

namespace Options

def setBound (options : Options) (name : Name) (value : Option Int) : Options :=
  match name with
  | .low => { options with low := value }
  | .high => { options with high := value }
  | _ => options

/-- The options after a segment, and whether something in it is out of place. -/
def apply (options : Options) (segment : Segment) : Except Stop (Options × Bool) :=
  let stray := !segment.operands.isEmpty
  match segment.head with
  | .bare .help => .error .help
  | .helpAnd letters =>
      if !letters.isEmpty && letters.all (· = .scalar 'h') then .error .help else .error .refused
  | .bare .threads =>
      if stray then do
        return ({ options with threads := ← segment.operands.mapM number }, false)
      else .error .refused
  | .bare bound =>
      match segment.operands with
      | [] => .error .refused
      | value :: others => do
          return (options.setBound bound (some (← number value)), !others.isEmpty)
  | .given .help _ => .error .refused
  | .given .threads value =>
      if value = divider then .ok ({ options with threads := [] }, stray)
      else do return ({ options with threads := [← number value] }, stray)
  | .given bound value =>
      if value = divider then .ok (options.setBound bound none, stray)
      else do return (options.setBound bound (some (← number value)), stray)
  | .operand _ | .unknown _ => .ok (options, true)

def ofTokens (tokens : List Token) : Except Stop Options :=
  match words? tokens with
  | none => .error .refused
  | some words => do
      let (leading, segments) := segments words
      let (options, stray) ← segments.foldlM (fun (options, stray) segment => do
        let (options, more) ← apply options segment
        return (options, stray || more)) (({}, !leading.isEmpty) : Options × Bool)
      if stray then throw .refused else return options

end Options

inductive BoundError where
  | lowMissing
  | highMissing
  | bothMissing
deriving DecidableEq, Repr

def BoundError.message : BoundError → String
  | lowMissing => "'>' not supported between instances of 'list' and 'int'"
  | highMissing => "'>' not supported between instances of 'int' and 'list'"
  | bothMissing => "can only concatenate list (not \"int\") to list"

def Options.bounds (options : Options) : Except BoundError (Int × Int) :=
  match options.low, options.high with
  | some low, some high => .ok (low, high)
  | none, some _ => .error .lowMissing
  | some _, none => .error .highMissing
  | none, none => .error .bothMissing

end Argon2Workbench.Survey
