import DeskCalc.Cell
import DeskCalc.Fault
import DeskCalc.Number.Shortest

namespace DeskCalc

/-- An exact number with a unit. -/
structure Quantity where
  number : Rat
  unit : Units
  deriving DecidableEq

namespace Quantity

def pure (number : Rat) : Quantity := ⟨number, .one⟩

def times (x y : Quantity) : Quantity := ⟨x.number * y.number, x.unit.combine y.unit 1⟩

def dividedBy (x y : Quantity) : Quantity := ⟨x.number / y.number, x.unit.combine y.unit (-1)⟩

/-- The sum of two quantities of one unit, which keeps the first one's order of factors. -/
def plus (x y : Quantity) : Quantity := ⟨x.number + y.number, x.unit⟩

def minus (x y : Quantity) : Quantity := ⟨x.number - y.number, x.unit⟩

inductive ShowError
  | overflow
  | exponentTooLong
  deriving DecidableEq

def ShowError.fault : ShowError → Fault
  | overflow => ⟨.overflow, some "integer division result too large for a float"⟩
  | exponentTooLong =>
    ⟨.value, some "Exceeds the limit (4300 digits) for integer string conversion"⟩

/-- A double as a number is shown: without the `.0` that marks it as a double. -/
def numberText (x : Double) : String :=
  let digits := x.text.toList
  if ['.', '0'] <:+ digits then .ofList (digits.take (digits.length - 2)) else x.text

/-- The shown form of a quantity and the double in it. -/
def display (q : Quantity) : Except ShowError (Double × String) :=
  match Double.ofRat? q.number with
  | none => .error .overflow
  | some x =>
    if q.unit.isWritable then .ok (x, numberText x ++ " (" ++ q.unit.text ++ ")")
    else .error .exponentTooLong

def result (q : Quantity) : Except ShowError Result :=
  q.display.map fun (value, display) => ⟨display, value, q.unit.factors⟩

end Quantity

end DeskCalc
