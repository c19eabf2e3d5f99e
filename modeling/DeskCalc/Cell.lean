import DeskCalc.Number.Double
import DeskCalc.Units

namespace DeskCalc

/-- A value as the engine shows it, as a number, and the factors of its unit in the engine's order. -/
structure Result where
  display : String
  value : Double
  unit : List Factor
  deriving DecidableEq

/-- An entry of a transcript. -/
inductive Cell
  | input (text : String)
  | output (results : List Result)
  | message (text : String)
  | error (text : String)
  deriving DecidableEq

namespace Cell

def isInput : Cell → Bool
  | input _ => true
  | _ => false

def inputText? : Cell → Option String
  | input text => some text
  | _ => none

end Cell

/-- The lines that show the results of an output cell: the newest, which is the last, comes first
and has number zero. -/
def Result.lines (results : List Result) : List String :=
  results.reverse.mapIdx fun k r => "[" ++ toString k ++ "]: " ++ r.display

end DeskCalc
