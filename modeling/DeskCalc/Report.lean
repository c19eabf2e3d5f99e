import DeskCalc.Cell
import DeskCalc.Payload

namespace DeskCalc

/-- What an engine says, as it says it: a kind by name and any payload. -/
structure Report where
  kind : String
  payload : Payload

namespace Report

/-- The kinds of reports that a transcript takes. -/
inductive Kind
  | quantity
  | quantityList
  | message
  deriving DecidableEq

def Kind.name : Kind → String
  | quantity => "quantity"
  | quantityList => "quantity_list"
  | message => "message"

def Kind.ofName? (name : String) : Option Kind :=
  [quantity, quantityList, message].find? (·.name = name)

end Report

namespace Result

def factorPayload (f : Factor) : Payload :=
  .dict [(.text "unit", .text f.symbol), (.text "exponent", .int f.exponent)]

/-- The dictionary that reports a result; a double that is no number is left out as null. -/
def payload (r : Result) : Payload :=
  .dict [(.text "_str", .text r.display),
    (.text "number_float", if r.value.isNaN then .null else .float r.value),
    (.text "unit", .list (r.unit.map factorPayload))]

/-- One factor of a reported unit. A missing symbol is empty and a missing exponent one. -/
def factorOfPayload : Payload → Except Payload.Error Factor
  | .dict entries => do
    let exponent ← ((Payload.find? "exponent" entries).getD (.int 1)).toInt
    return ⟨((Payload.find? "unit" entries).getD (.text "")).toText, exponent⟩
  | p => .error (.noEntries p.typeName)

/-- The double of a reported number; a missing one is no number. -/
def valueOfPayload : Payload → Except Payload.Error Double
  | .null => .ok .nan
  | p => p.toDouble

/-- The result that a payload reports: one that is ready, or a dictionary whose missing entries
count as empty. -/
def ofPayload : Payload → Except Payload.Error Result
  | .result r => .ok r
  | .dict entries => do
    let factors ← ((Payload.find? "unit" entries).getD (.list [])).elements
    let unit ← factors.mapM factorOfPayload
    let value ← valueOfPayload ((Payload.find? "number_float" entries).getD .null)
    return ⟨((Payload.find? "_str" entries).getD (.text "")).toText, value, unit⟩
  | p => .error (.unsupported p.typeName)

end Result

namespace Report

def cell (r : Report) : Except Payload.Error Cell :=
  match Kind.ofName? r.kind with
  | none => .error (.unknownKind r.kind)
  | some .quantity => (Result.ofPayload r.payload).map fun result => .output [result]
  | some .quantityList => do
    let items ← r.payload.elements
    return .output (← items.mapM Result.ofPayload)
  | some .message => .ok (.message r.payload.toText)

end Report

end DeskCalc
