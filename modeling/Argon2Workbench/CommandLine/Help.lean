import Argon2Workbench.Template

namespace Argon2Workbench.CommandLine

def programName : Text := "argon2-harness"

def helpLines : List String := [
  "Mode:",
  "\tr\trun Argon2 with the selected parameters",
  "\tg\tgenerates test vectors for given Argon2 type",
  "\tb\tbenchmarks various Argon2 versions",
  "",
  "Parameters (for run mode):",
  "  -y TYPE_TAG, --type TYPE_TAG",
  "                        d or i, default i",
  "  -t TCOST, --tcost TCOST",
  "                        time cost in 0..2^24, default 3",
  "  -m MCOST, --mcost MCOST",
  "                        base 2 log of memory cost in 0..21, default 12",
  "  -l LANES, --lanes LANES",
  "                        number of lanes in 1..16777215, default 4",
  "  -p THREADS, --threads THREADS",
  "                        number of threads in 1..16777215, default 4",
  "  -i PASSWORD, --password PASSWORD",
  "                        password, default \"password\""]

def usageTemplate (program : Text) : Text :=
  program ++ Text.ofString " mode [parameters]"

def usage [Machine] (program : Text) : Except Template.Error Text :=
  Template.fill (usageTemplate program) (.single (.object [("prog", .string program)]))

def lineFeed : Text.Rune := .scalar '\n'

/-- A text with no more than two line feeds in a row, where `before` stand in front. -/
def tightened (before : Nat) : Text → Text
  | [] => []
  | rune :: rest =>
      if rune ≠ lineFeed then rune :: tightened 0 rest
      else if before < 2 then rune :: tightened (before + 1) rest
      else tightened before rest

def helpUnder (usage : Text) : Text :=
  tightened 0 <| Text.ofString "usage: " ++ usage ++ Text.ofString "\n\n" ++
    Text.ofString (String.join (helpLines.map (· ++ "\n")))

/-- The help of the program under its own name, in which there is nothing to fill in. -/
def ownHelp : Text :=
  helpUnder (usageTemplate programName)

def help [Machine] (program : Text) : Except Template.Error Text :=
  (usage program).map helpUnder

end Argon2Workbench.CommandLine
