import Argon2Workbench.Hash.Argon2.Status
import Argon2Workbench.Number.Decimal
import Argon2Workbench.Number.Numeral

namespace Argon2Workbench

open Hash.Argon2 (Status Variant)

structure Sample where
  memory : Int
  threads : Int
  passes : Int
  startCycles : Int
  middleCycles : Int
  stopCycles : Int
  startTime : Binary64
  stopTime : Binary64
  statusD : Status := .ok
  statusI : Status := .ok
deriving DecidableEq

namespace Sample

open Binary64 (ConversionError)

def cycles (sample : Sample) : Variant → Int
  | .d => sample.middleCycles - sample.startCycles
  | .i => sample.stopCycles - sample.middleCycles

def cyclesPerByte (sample : Sample) (variant : Variant) : Except ConversionError Binary64 :=
  (Binary64.quotient (sample.cycles variant) sample.memory).map (.scaleDown 10)

/-- Cycles in units of `2 ^ 20`. -/
def megacycles (sample : Sample) (variant : Variant) : Except ConversionError Binary64 :=
  Binary64.quotient (sample.cycles variant) (twoTo 20)

def seconds (sample : Sample) : Binary64 :=
  sample.stopTime.sub sample.startTime

inductive Error where
  | conversion (error : ConversionError)
  | digits (error : Numeral.DigitsError)
deriving DecidableEq, Repr

def Error.message : Error → String
  | conversion error => error.message
  | digits error => error.message

def heading (sample : Sample) : Except Numeral.DigitsError String := do
  let passes ← Numeral.written sample.passes
  let memory ← Numeral.written (sample.memory.fdiv 1024)
  let threads ← Numeral.written sample.threads
  return s!"{passes} pass(es)  {memory} Mbytes {threads} threads:  "

def reportLine (variant : Variant) (heading : String) (perByte megacycles : Binary64) : String :=
  s!"Argon2{variant.letter} {heading}{Decimal.fixed 2 perByte} cpb " ++
    s!"{Decimal.fixed 2 megacycles} Mcycles \n"

def report (sample : Sample) : Except Error String := do
  let perByteD ← (sample.cyclesPerByte .d).mapError .conversion
  let megacyclesD ← (sample.megacycles .d).mapError .conversion
  let perByteI ← (sample.cyclesPerByte .i).mapError .conversion
  let megacyclesI ← (sample.megacycles .i).mapError .conversion
  let heading ← sample.heading.mapError .digits
  return reportLine .d heading perByteD megacyclesD ++
    reportLine .i heading perByteI megacyclesI ++
    s!"{Decimal.fixed 4 sample.seconds} seconds\n\n"

end Sample

end Argon2Workbench
