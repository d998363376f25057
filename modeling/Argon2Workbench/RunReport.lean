import Argon2Workbench.Number.Decimal
import Argon2Workbench.Phc
import Argon2Workbench.Text.Utf8

namespace Argon2Workbench

open Hash.Argon2 (Variant)

def hexLine (bytes : Bytes) : String :=
  String.ofList bytes.hex ++ "\n"

structure RunReport where
  text : String
  encoded : String
deriving DecidableEq, Repr

def reportText (context : Context) (variant : Variant) (password : Bytes)
    (seconds mebicycles : Binary64) (encoded : String) : String :=
  s!"Argon2{variant.letter} with\n" ++
  s!"\tt_cost = {context.passes}\n" ++
  s!"\tm_cost = {context.memory}\n" ++
  s!"\tpassword = {Text.Utf8.decodeReplacing password}\n" ++
  "\tsalt = " ++ hexLine context.salt ++
  s!"{Decimal.fixed 3 seconds} seconds ({Decimal.fixed 3 mebicycles} mebicycles)\n" ++
  hexLine context.output ++
  encoded ++ "\n"

/-- The encoded hash comes first: if it does not fit, there is no report. -/
def Context.report (context : Context) (variant : Variant) (password : Bytes)
    (seconds mebicycles : Binary64) (capacity : Int) : Except EncodingError RunReport :=
  (context.encode variant capacity).map fun encoded =>
    { text := reportText context variant password seconds mebicycles encoded, encoded }

end Argon2Workbench
